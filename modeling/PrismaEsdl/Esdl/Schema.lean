import PrismaEsdl.Table
import PrismaEsdl.Text.CodePoint

/-!
EdgeDB schemas: enum scalars, and object types with their stored pointers and computed backlinks.

How many values a pointer holds is one choice of three, so a pointer that may hold several is never
required.
-/

namespace PrismaEsdl.Esdl

/-- How many values a pointer holds: at most one, exactly one, or any number. -/
inductive Cardinality where
  | optional
  | required
  | multi
  deriving DecidableEq, Inhabited, Repr

/-- A pointer that may hold several values is not required. -/
def Cardinality.of (multi required : Bool) : Cardinality :=
  if multi then .multi else if required then .required else .optional

inductive PointerKind where
  | property
  | link
  deriving DecidableEq, Inhabited, Repr

def PointerKind.keyword : PointerKind → Text
  | property => "property"
  | link => "link"

/-- A stored property or link. -/
structure Pointer where
  kind : PointerKind
  type : Text
  cardinality : Cardinality
  exclusive : Bool
  default : Option Text
  deriving DecidableEq, Inhabited, Repr

namespace Pointer

def isMulti (pointer : Pointer) : Bool := pointer.cardinality == .multi

def isRequired (pointer : Pointer) : Bool := pointer.cardinality == .required

/-- Whether the pointer is written with a block of its own. -/
def hasBlock (pointer : Pointer) : Bool := pointer.exclusive || pointer.default.isSome

end Pointer

/-- A computed link back along a stored one. -/
structure Backlink where
  expression : Text
  multi : Bool
  deriving DecidableEq, Inhabited, Repr

/-- The expression that follows the link `inverse` of the type `target` backwards. -/
def Backlink.through (inverse target : Text) : Text :=
  ".<" ++ inverse ++ "[is " ++ target ++ "]"

/-- An object type. The link ids are the names of id fields that a link stands for. -/
structure ObjectType where
  props : Table Text Pointer := ∅
  links : Table Text Pointer := ∅
  backlinks : Table Text Backlink := ∅
  linkIds : List Text := []
  deriving Inhabited

namespace ObjectType

/-- Properties, then links, without those that a link stands for. -/
def storedPointers (type : ObjectType) : List (Text × Pointer) :=
  (type.props.entries ++ type.links.entries).filter fun entry => !type.linkIds.contains entry.1

/-- The link ids in the order of their code points. -/
def sortedLinkIds (type : ObjectType) : List Text := type.linkIds.mergeSort Text.le

end ObjectType

/-- An EdgeDB schema. -/
structure Schema where
  enums : Table Text (List Text) := ∅
  types : Table Text ObjectType := ∅
  deriving Inhabited

end PrismaEsdl.Esdl
