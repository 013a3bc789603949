import PrismaEsdl.Stack

/-!
The reasons for which a field of a model has no place in an object type, and what else may stand in
the way of a conversion.
-/

namespace PrismaEsdl.Conversion

/-- Why a field cannot be placed. Each reason names the model and the field. -/
inductive PlacementError where
  /-- A relation whose type is no model. -/
  | missingRelationTarget (model field target : Text)
  /-- A link with more than one relation that could be its inverse. -/
  | ambiguousBacklink (model field target : Text) (candidates : List Text)
  /-- A relation that is held by more than one id field. -/
  | compositeKey (model field : Text) (idFields : List Text)
  /-- A type that is neither a scalar nor an enum. -/
  | unknownScalar (model field type : Text)
  /-- A type that is a call. -/
  | callType (model field type : Text)
  deriving DecidableEq, Inhabited, Repr

namespace PlacementError

def model : PlacementError → Text
  | missingRelationTarget model .. | ambiguousBacklink model .. | compositeKey model ..
  | unknownScalar model .. | callType model .. => model

def field : PlacementError → Text
  | missingRelationTarget _ field .. | ambiguousBacklink _ field .. | compositeKey _ field ..
  | unknownScalar _ field .. | callType _ field .. => field

end PlacementError

/-- What stops a conversion. -/
inductive Obstacle where
  /-- A field has no place. -/
  | misplaced (error : PlacementError)
  /-- A value that has to be shown, as a name or in a message, cannot be. -/
  | excessive (excess : Excess)
  deriving DecidableEq, Inhabited, Repr

end PrismaEsdl.Conversion
