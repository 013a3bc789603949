import PrismaEsdl.Prisma.Schema

/-!
Well-formed syntax trees.

In a well-formed tree the names of enums, models, enum values, fields, attributes and calls and the
keys of arguments are not empty, the type of a field is a name or a call, a block of another kind is
not of a kind that has a meaning of its own, and no argument is a boolean, at any depth. Which
fractional numbers may stand in arguments is left open.
-/

namespace PrismaEsdl.Prisma

/-- What an argument may be, and what may stand inside of it. -/
inductive Value.IsWellFormed (number : Binary64 → Prop) : Value → Prop where
  | null : IsWellFormed number .null
  | text (t : Text) : IsWellFormed number (.text t)
  | int (i : Int) : IsWellFormed number (.int i)
  | float {x : Binary64} (fits : number x) : IsWellFormed number (.float x)
  | call {name : Text} {arguments : List Value} (named : name ≠ [])
      (parts : ∀ argument ∈ arguments, IsWellFormed number argument) :
      IsWellFormed number (.call name arguments)
  | keyed {key : Text} {value : Value} (named : key ≠ []) (part : IsWellFormed number value) :
      IsWellFormed number (.keyed key value)
  | list {items : List Value} (parts : ∀ item ∈ items, IsWellFormed number item) :
      IsWellFormed number (.list items)

section

variable (number : Binary64 → Prop)

/-- What the type of a field may be: a name or a call. -/
inductive Value.IsType : Value → Prop where
  | named {name : Text} (given : name ≠ []) : IsType (.text name)
  | call {name : Text} {arguments : List Value}
      (wellFormed : (Value.call name arguments).IsWellFormed number) : IsType (.call name arguments)

structure AttributeDeclaration.IsWellFormed (declared : AttributeDeclaration) : Prop where
  named : declared.name ≠ []
  arguments : ∀ argument ∈ declared.arguments, argument.IsWellFormed number

structure FieldDeclaration.IsWellFormed (field : FieldDeclaration) : Prop where
  named : field.name ≠ []
  typed : field.type.IsType number
  attributes : ∀ declared ∈ field.attributes, declared.IsWellFormed number

def Property.IsWellFormed : Property → Prop
  | field declaration => declaration.IsWellFormed number
  | blockAttribute declaration => declaration.IsWellFormed number
  | comment _ => True

def EnumItem.IsWellFormed : EnumItem → Prop
  | value name => name ≠ []
  | comment _ => True

/-- The kinds of blocks that have a meaning of their own. -/
def Declaration.kinds : List Text := ["enum", "model", "comment"]

def Declaration.IsWellFormed : Declaration → Prop
  | enum name items => name ≠ [] ∧ ∀ item ∈ items, item.IsWellFormed
  | model name properties => name ≠ [] ∧ ∀ property ∈ properties, property.IsWellFormed number
  | comment _ => True
  | other kind _ => kind ∉ kinds

def Schema.IsWellFormed (schema : Schema) : Prop :=
  ∀ declaration ∈ schema.declarations, declaration.IsWellFormed number

end

end PrismaEsdl.Prisma
