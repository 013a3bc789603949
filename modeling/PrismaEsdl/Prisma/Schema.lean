import PrismaEsdl.Prisma.Value

/-!
The syntax tree of a Prisma schema: its declarations in order, with the comments and blocks that a
conversion passes over.
-/

namespace PrismaEsdl.Prisma

/-- An attribute such as `@unique` or `@@id([a, b])`, with the values of its arguments. -/
structure AttributeDeclaration where
  name : Text
  arguments : List Value
  deriving Inhabited

/-- A field of a model. Its type is a name, or a call as in `Unsupported("circle")`. -/
structure FieldDeclaration where
  name : Text
  type : Value
  array : Bool
  optional : Bool
  attributes : List AttributeDeclaration
  deriving Inhabited

/-- What stands inside a model. -/
inductive Property where
  | field (declaration : FieldDeclaration)
  | blockAttribute (declaration : AttributeDeclaration)
  | comment (text : Text)
  deriving Inhabited

/-- What stands inside an enum. -/
inductive EnumItem where
  | value (name : Text)
  | comment (text : Text)
  deriving DecidableEq, Inhabited

/-- What stands at the top of a schema. -/
inductive Declaration where
  | enum (name : Text) (items : List EnumItem)
  | model (name : Text) (properties : List Property)
  | comment (text : Text)
  /-- A block of another kind, such as a datasource or a generator. -/
  | other (kind name : Text)
  deriving Inhabited

/-- A parsed schema. -/
structure Schema where
  declarations : List Declaration
  deriving Inhabited

/-- The name of an enum item that is a value. -/
def EnumItem.value? : EnumItem → Option Text
  | value name => some name
  | comment _ => none

/-- The field of a property that is one. -/
def Property.field? : Property → Option FieldDeclaration
  | field declaration => some declaration
  | blockAttribute _ | comment _ => none

/-- The name and the items of a declaration that is an enum. -/
def Declaration.enum? : Declaration → Option (Text × List EnumItem)
  | enum name items => some (name, items)
  | _ => none

/-- The name and the properties of a declaration that is a model. -/
def Declaration.model? : Declaration → Option (Text × List Property)
  | model name properties => some (name, properties)
  | _ => none

end PrismaEsdl.Prisma
