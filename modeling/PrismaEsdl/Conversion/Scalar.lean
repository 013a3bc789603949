import PrismaEsdl.Conversion.Pairing

/-!
The types of properties: a field typed by an enum keeps the name of the enum, also where that is
the name of a built-in scalar; other names are looked up in a table.
-/

namespace PrismaEsdl.Conversion

open Prisma

/-- The scalar types of Prisma and what they are called in EdgeDB. -/
def scalarTypes : Table Text Text := .ofList [
  ("String", "str"),
  ("Boolean", "bool"),
  ("Int", "int32"),
  ("BigInt", "int64"),
  ("Float", "float64"),
  ("Decimal", "decimal"),
  ("DateTime", "datetime"),
  ("Json", "json"),
  ("Bytes", "bytes")]

/-- Whether the type of a field is an enum. -/
def isEnum (enums : Table Text (List Text)) (field : Field) : Bool :=
  match field.typeName? with
  | some name => enums.contains name
  | none => false

/-- The type of the property of a field, with a given table of scalars. -/
def propertyType (stack : Stack) (enums : Table Text (List Text)) (scalars : Table Text Text)
    (model : Text) (field : Field) : Except Obstacle Text :=
  match field.type with
  | .call _ _ => do throw (.misplaced (.callType model field.name (← misplacedType stack field)))
  | .named name =>
    if enums.contains name then .ok name
    else match scalars.get? name with
      | some type => .ok type
      | none => .error (.misplaced (.unknownScalar model field.name name))

end PrismaEsdl.Conversion
