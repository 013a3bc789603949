import PrismaEsdl.Prisma.Schema
import PrismaEsdl.Table

/-!
The models and enums of a schema, indexed by name.

An index keeps the first position and the last content of a repeated name: of a model, of a field
in a model, of a kind of attribute on a field, of an enum. Only three kinds of attributes count,
and of those only what a conversion needs.

Names are made of values by showing them. All that is declared is shown, also what does not stay in
the index; the first value that cannot be shown leaves no index.
-/

namespace PrismaEsdl.Prisma

/-- The declared type of a field. -/
inductive FieldType where
  | named (name : Text)
  | call (name : Text) (arguments : List Value)
  deriving Inhabited

namespace FieldType

/-- A type as it is shown. -/
def display (room : Nat) : FieldType → Except Excess Text
  | named name => .ok name
  | call name arguments => (Value.call name arguments).display room

def name? : FieldType → Option Text
  | named name => some name
  | call _ _ => none

/-- The type that a value declares; what is no call is a name as it is shown. -/
def ofValue (stack : Stack) : Value → Except Excess FieldType
  | .call name arguments => .ok (.call name arguments)
  | value => .named <$> value.display (stack.room .typeName)

end FieldType

/-! ### Attributes -/

/-- What `@relation(...)` says: the name of the relation, the id fields that hold it, and the
fields that they refer to. -/
structure Relation where
  name : Option Text := none
  fields : Option (List Text) := none
  references : Option (List Text) := none
  deriving DecidableEq, Inhabited, Repr

namespace Relation

/-- The text between two quotation marks, if a text is enclosed in them. -/
def insideQuotes? : Text → Option Text
  | .char '"' :: rest => if rest.getLast? = some (.char '"') then some rest.dropLast else none
  | _ => none

/-- A text without the quotation marks around it. -/
def unquoted (t : Text) : Text := (insideQuotes? t).getD t

section

variable (stack : Stack)

/-- The names that a list gives; any other value is one name. -/
def names : Value → Except Excess (List Text)
  | .list items => items.mapM (Value.display (stack.room .relationItem))
  | value => return [← value.display (stack.room .relationValue)]

/-- Takes in one argument. The first text is the name of the relation unless a name is given under
its key. -/
def takeArgument (relation : Relation) : Value → Except Excess Relation
  | .keyed key value =>
    if key = "fields" then return { relation with fields := some (← names stack value) }
    else if key = "references" then
      return { relation with references := some (← names stack value) }
    else if key = "name" then
      return { relation with name := some (unquoted (← value.display (stack.room .relationValue))) }
    else return relation
  | .text t =>
    match relation.name with
    | none => return { relation with name := some (unquoted t) }
    | some _ => return relation
  | _ => return relation

def ofArguments (arguments : List Value) : Except Excess Relation :=
  arguments.foldlM (takeArgument stack) {}

end

end Relation

inductive AttributeKind where
  | relation
  | default
  | unique
  deriving DecidableEq, Repr

/-- The attributes that count, with what they say. The value of a default is its first argument, or
null. -/
inductive FieldAttribute where
  | relation (relation : Relation)
  | default (value : Value)
  | unique
  deriving Inhabited

namespace FieldAttribute

def kind : FieldAttribute → AttributeKind
  | relation _ => .relation
  | default _ => .default
  | unique => .unique

/-- The attribute that a declaration makes, if it is of a kind that counts. -/
def ofDeclaration? (stack : Stack) (declaration : AttributeDeclaration) :
    Except Excess (Option FieldAttribute) :=
  if declaration.name = "unique" then return some .unique
  else if declaration.name = "default" then
    return some (.default (declaration.arguments.head?.getD .null))
  else if declaration.name = "relation" then
    return some (.relation (← Relation.ofArguments stack declaration.arguments))
  else return none

end FieldAttribute

/-! ### Fields and models -/

/-- A field with its attributes by kind. -/
structure Field where
  name : Text
  type : FieldType
  array : Bool
  optional : Bool
  attributes : Table AttributeKind FieldAttribute
  deriving Inhabited

namespace Field

def ofDeclaration (stack : Stack) (declaration : FieldDeclaration) : Except Excess Field := do
  let type ← FieldType.ofValue stack declaration.type
  let attributes ← declaration.attributes.mapM (FieldAttribute.ofDeclaration? stack)
  return {
    name := declaration.name
    type
    array := declaration.array
    optional := declaration.optional
    attributes := .ofList ((attributes.filterMap id).map fun a => (a.kind, a)) }

def typeName? (field : Field) : Option Text := field.type.name?

def relation? (field : Field) : Option Relation :=
  match field.attributes.get? .relation with
  | some (.relation relation) => some relation
  | _ => none

/-- The value of the default attribute. -/
def default? (field : Field) : Option Value :=
  match field.attributes.get? .default with
  | some (.default value) => some value
  | _ => none

def isUnique (field : Field) : Bool := field.attributes.contains .unique

end Field

/-- A model with its fields by name. -/
structure Model where
  name : Text
  fields : Table Text Field
  deriving Inhabited

namespace Model

def ofProperties (stack : Stack) (name : Text) (properties : List Property) :
    Except Excess Model := do
  let fields ← (properties.filterMap Property.field?).mapM (Field.ofDeclaration stack)
  return { name, fields := .ofList (fields.map fun field => (field.name, field)) }

/-- The fields with a relation attribute whose type names a model. -/
def relationsTo (model : Model) (target : Text) : List Field :=
  model.fields.contents.filter fun field =>
    field.relation?.isSome && field.typeName? == some target

end Model

namespace Schema

/-- The models of a schema by name. -/
def models (stack : Stack) (schema : Schema) : Except Excess (Table Text Model) := do
  let models ← (schema.declarations.filterMap Declaration.model?).mapM fun (name, properties) =>
    Model.ofProperties stack name properties
  return .ofList (models.map fun model => (model.name, model))

/-- The enum declarations of a schema with their values, comments left out. -/
def enumDeclarations (schema : Schema) : List (Text × List Text) :=
  (schema.declarations.filterMap Declaration.enum?).map fun (name, items) =>
    (name, items.filterMap EnumItem.value?)

/-- The values of the enums of a schema by name. -/
def enums (schema : Schema) : Table Text (List Text) := .ofList schema.enumDeclarations

end Schema

end PrismaEsdl.Prisma
