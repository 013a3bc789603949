import PrismaEsdl.Json.Literal
import PrismaEsdl.Conversion.Error
import PrismaEsdl.Log.Run
import PrismaEsdl.Prisma.Model

/-!
Defaults. A token becomes an expression if the field is typed by an enum, by `String` or by
`Boolean`; a call becomes one if it is in the table of functions, whatever the field is typed by.
Every other default but null is dropped with a warning, which shows the default and the type.
-/

namespace PrismaEsdl.Conversion

open Prisma

/-- The functions of Prisma that have an expression in EdgeDB. -/
def defaultFunctions : Table Text Text := .ofList [
  ("now", "datetime_current()"),
  ("uuid", "uuid_generate_v4()")]

/-- The content of a token: of one that is a JSON literal what it stands for, of one that is only
enclosed in quotation marks what is between them, else the token. -/
def tokenContent (token : Text) : Text :=
  match Relation.insideQuotes? token with
  | none => token
  | some inside => (Json.Literal.decode? token).getD inside

/-- The string literal for a token. -/
def stringLiteral (token : Text) : Text := Json.Literal.encode (tokenContent token)

/-- The default expression for a value under a field type. -/
def defaultExpression? (enums : Table Text (List Text)) (type : FieldType) :
    Value → Option Text
  | .text token =>
    match type with
    | .named name =>
      if enums.contains name then some (name ++ "." ++ token)
      else if name = "String" then some (stringLiteral token)
      else if name = "Boolean" then some token
      else none
    | .call _ _ => none
  | .call name _ => defaultFunctions.get? name
  | _ => none

/-- The warning that a default is dropped. -/
def droppedDefault (stack : Stack) (model : Text) (field : Field) (value : Value) :
    Except Excess Log.Event := do
  let shown ← value.display (stack.room .droppedDefault)
  let type ← field.type.display (stack.room .droppedDefault)
  return .defaultDropped model field.name shown type

/-- The default expression of a field; a default that has none is dropped with a warning. -/
def pointerDefault (stack : Stack) (enums : Table Text (List Text)) (model : Text)
    (field : Field) : Log.Run Obstacle (Option Text) :=
  match field.default? with
  | none | some .null => return none
  | some value =>
    match defaultExpression? enums field.type value with
    | some expression => return some expression
    | none => do
      .tell (← .ofExcept ((droppedDefault stack model field value).mapError .excessive))
      return none

end PrismaEsdl.Conversion
