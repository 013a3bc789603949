import PrismaEsdl.Prisma.Model
import PrismaEsdl.Conversion.Error

/-!
Pairing the two sides of a relation. A field typed by a model is a link; which side of the relation
it is depends only on the relations of its target that lead back: with none it holds the link, with
one it follows that one backwards, and with several it cannot be placed.
-/

namespace PrismaEsdl.Conversion

open Prisma

/-- Whether a field is typed by one of the models. -/
def isLink (models : Table Text Model) (field : Field) : Bool :=
  match field.typeName? with
  | some name => models.contains name
  | none => false

/-- The type of a field that has no place, as it is shown. -/
def misplacedType (stack : Stack) (field : Field) : Except Obstacle Text :=
  (field.type.display (stack.room .misplacedType)).mapError .excessive

/-- A field that leads to no model. -/
def missingTarget {α : Type} (stack : Stack) (model : Text) (field : Field) :
    Except Obstacle α := do
  throw (.misplaced (.missingRelationTarget model field.name (← misplacedType stack field)))

theorem missingTarget_eq_error {α : Type} (stack : Stack) (model : Text) (field : Field) :
    ∃ obstacle, (missingTarget stack model field : Except Obstacle α) = .error obstacle := by
  unfold missingTarget
  cases misplacedType stack field with
  | error obstacle => exact ⟨obstacle, rfl⟩
  | ok shown => exact ⟨_, rfl⟩

/-- A relation has to be typed by a model. -/
def checkTarget (stack : Stack) (models : Table Text Model) (model : Text) (field : Field) :
    Except Obstacle Unit :=
  if field.relation?.isSome && !isLink models field then missingTarget stack model field
  else .ok ()

/-- The model that a field leads to; the empty name leads to none. -/
def targetOf (stack : Stack) (models : Table Text Model) (model : Text) (field : Field) :
    Except Obstacle Model :=
  let target? := match field.typeName? with
    | some (p :: rest) => models.get? (p :: rest)
    | _ => none
  match target? with
  | some target => .ok target
  | none => missingTarget stack model field

/-- A link beside the relations of its target that lead back. -/
structure Pairing where
  target : Text
  candidates : List Field

/-- The side of a relation that a link is. -/
inductive Side where
  | owning
  | backlink (inverse : Field)
  | ambiguous

def Pairing.side (pairing : Pairing) : Side :=
  match pairing.candidates with
  | [] => .owning
  | [inverse] => .backlink inverse
  | _ => .ambiguous

/-- Pairs a link with the relations that lead back to its model. -/
def pair (stack : Stack) (models : Table Text Model) (model : Text) (field : Field) :
    Except Obstacle Pairing := do
  let target ← targetOf stack models model field
  return { target := target.name, candidates := target.relationsTo model }

/-- The id field that a link stands for, if its relation names exactly one. -/
def linkId (model : Text) (field : Field) : Except Obstacle (Option Text) :=
  match field.relation?.bind Relation.fields with
  | none | some [] => .ok none
  | some [id] => .ok (some id)
  | some ids => .error (.misplaced (.compositeKey model field.name ids))

end PrismaEsdl.Conversion
