import PrismaEsdl.Esdl.Schema
import PrismaEsdl.Conversion.Default
import PrismaEsdl.Conversion.Pairing
import PrismaEsdl.Conversion.Scalar

/-!
Converting a schema. Each field of each model is placed: as a property, a stored link or a
backlink. The models and their fields are taken in index order, and the first field that cannot be
placed stops the conversion, and so does a value that cannot be shown; there is no schema then.
-/

namespace PrismaEsdl.Conversion

open Prisma Esdl Log

/-- Where a field lands in its object type. -/
inductive Placement where
  | property (pointer : Pointer)
  /-- A stored link, with the id field that it stands for. -/
  | link (pointer : Pointer) (id : Option Text)
  | backlink (computed : Backlink)

/-- The object type with a further field placed in it. -/
def Placement.into (type : ObjectType) (name : Text) : Placement → ObjectType
  | property pointer => { type with props := type.props.insert name pointer }
  | link pointer id =>
    { type with
      links := type.links.insert name pointer
      linkIds := type.linkIds ++ id.toList.filter (!type.linkIds.contains ·) }
  | backlink computed => { type with backlinks := type.backlinks.insert name computed }

/-- The pointer of a stored field. -/
def pointerOf (kind : PointerKind) (type : Text) (field : Field) (default : Option Text) :
    Pointer where
  kind
  type
  cardinality := .of field.array (!field.optional)
  exclusive := field.isUnique
  default

section

variable (stack : Stack) (models : Table Text Model) (enums : Table Text (List Text))

/-- Warns of an id field that the model of its link does not have. -/
def warnUndeclared (model : Model) (field : Field) (id : Option Text) :
    Run Obstacle Unit :=
  .tellAll <| (id.toList.filter (!model.fields.contains ·)).map
    (.idUndeclared model.name field.name ·)

/-- Places a field that is no link. -/
def placeProperty (model : Model) (field : Field) : Run Obstacle Placement := do
  let type ← .ofExcept (propertyType stack enums scalarTypes model.name field)
  let default ← pointerDefault stack enums model.name field
  return .property (pointerOf .property type field default)

/-- Places a link. -/
def placeLink (model : Model) (field : Field) : Run Obstacle Placement := do
  let pairing ← .ofExcept (pair stack models model.name field)
  match pairing.side with
  | .ambiguous =>
    .stop (.misplaced (.ambiguousBacklink model.name field.name pairing.target
      (pairing.candidates.map Field.name)))
  | .backlink inverse =>
    .tell (.backlinkMade model.name field.name pairing.target inverse.name)
    return .backlink
      { expression := Backlink.through inverse.name pairing.target, multi := field.array }
  | .owning =>
    let id ← .ofExcept (linkId model.name field)
    warnUndeclared model field id
    let default ← pointerDefault stack enums model.name field
    .tell (.linkMade model.name field.name pairing.target)
    return .link (pointerOf .link pairing.target field default) id

/-- Places a field of a model. -/
def placeField (model : Model) (field : Field) : Run Obstacle Placement := do
  .ofExcept (checkTarget stack models model.name field)
  if isLink models field then placeLink stack models enums model field
  else placeProperty stack enums model field

/-- Places fields one after the other. -/
def placeFields (model : Model) : List Field → ObjectType → Run Obstacle ObjectType
  | [], type => return type
  | field :: rest, type => do
    let placement ← placeField stack models enums model field
    placeFields model rest (placement.into type field.name)

/-- The object type of a model. -/
def objectType (model : Model) : Run Obstacle ObjectType :=
  placeFields stack models enums model model.fields.contents {}

/-- The object types of models, put into a table one after the other. -/
def objectTypes : List Model → Table Text ObjectType →
    Run Obstacle (Table Text ObjectType)
  | [], types => return types
  | model :: rest, types => do
    let type ← objectType stack models enums model
    objectTypes rest (types.insert model.name type)

end

/-- The models of a schema by name. -/
def indexModels (stack : Stack) (schema : Prisma.Schema) : Run Obstacle (Table Text Model) := do
  let models ← .ofExcept ((schema.models stack).mapError .excessive)
  .tell (.modelsIndexed models.keys)
  return models

/-- The enums of a schema by name. -/
def indexEnums {ε : Type} (schema : Prisma.Schema) : Run ε (Table Text (List Text)) := do
  .tellAll (schema.enumDeclarations.map fun (name, values) => .enumRead name values)
  return schema.enums

/-- Converts a schema. -/
def convert (stack : Stack) (schema : Prisma.Schema) : Run Obstacle Esdl.Schema := do
  let models ← indexModels stack schema
  let enums ← indexEnums schema
  let types ← objectTypes stack models enums models.contents ∅
  .tell (.schemaConverted enums.size types.size)
  return { enums, types }

end PrismaEsdl.Conversion
