import PrismaEsdl.Proofs.Conversion.Collecting

/-!
What the types in a converted schema name.

A field lands only if its type is the name of a model, of an enum or of a scalar: as a property it
takes the type of the enum or else what the table has for the scalar (`Lands.type_of_property`), as
a link the type of the model (`Lands.type_of_link`). The models and the enums of the source are the
object types and the enums of the result, so no pointer of a converted schema leads out of it, and a
field that is typed by a call or by an unknown name has no part in it (`pointer_types_resolve`).
-/

namespace PrismaEsdl.Conversion

open Prisma Esdl Log

theorem typeName?_eq_some_iff {field : Field} {name : Text} :
    field.typeName? = some name ↔ field.type = .named name := by
  unfold Field.typeName?
  cases field.type with
  | named other => simp [FieldType.name?]
  | call _ _ => simp [FieldType.name?]

/-- A property has a type exactly if its field is typed by the name of an enum or, where there is no
such enum, of a scalar. -/
theorem propertyType_eq_ok_iff {stack : Stack} {enums : Table Text (List Text)}
    {scalars : Table Text Text} {model : Text} {field : Field} {type : Text} :
    propertyType stack enums scalars model field = .ok type ↔
      ∃ name, field.type = .named name ∧
        (name ∈ enums.keys ∧ type = name ∨
          name ∉ enums.keys ∧ scalars.get? name = some type) := by
  unfold propertyType
  cases field.type with
  | call name arguments => cases misplacedType stack field <;> simp [bind, Except.bind, throw]
  | named name =>
      simp only [FieldType.named.injEq, exists_eq_left']
      by_cases enumerated : name ∈ enums.keys
      · rw [if_pos (Table.contains_iff_mem_keys.mpr enumerated)]
        simp [enumerated, eq_comm]
      · rw [if_neg fun known => enumerated (Table.contains_iff_mem_keys.mp known)]
        cases scalars.get? name with
        | none => simp [enumerated]
        | some scalar => simp [enumerated]

/-- A field type that names something in a schema: an object type, an enum or a scalar. -/
def Resolves (schema : Esdl.Schema) : FieldType → Prop
  | .named name =>
    name ∈ schema.types.keys ∨ name ∈ schema.enums.keys ∨ name ∈ scalarTypes.keys
  | .call _ _ => False

/-! ### Fields that land -/

section

variable {stack : Stack} {schema : Prisma.Schema} {models : Table Text Model} {model : Model}
  {field : Field} {pointer : Pointer}

/-- A field that leads to a model is typed by its name. -/
theorem type_of_targetOf (indexed : schema.models stack = .ok models) {name : Text}
    {target : Model} (leads : targetOf stack models name field = .ok target) :
    field.type = .named target.name ∧ target.name ∈ models.keys := by
  obtain ⟨type, typed, _, found⟩ := targetOf_eq_ok_iff.mp leads
  obtain ⟨_, rfl⟩ := (Schema.get?_models_iff indexed).mp found
  exact ⟨typeName?_eq_some_iff.mp typed,
    Table.mem_keys_of_mem_entries (Table.get?_eq_some_iff.mp found)⟩

/-- A property has the type of the enum that its field is typed by, or else that of the scalar; a
model of this name there is not. -/
theorem Lands.type_of_property
    (lands : Lands stack models schema.enums model field (.property pointer)) :
    ∃ name, field.type = .named name ∧ name ∉ models.keys ∧
      (name ∈ schema.enums.keys ∧ pointer.type = name ∨
        name ∉ schema.enums.keys ∧ scalarTypes.get? name = some pointer.type) := by
  cases lands with
  | property unlinked _ typed _ =>
      obtain ⟨name, named, known⟩ := propertyType_eq_ok_iff.mp typed
      refine ⟨name, named, ?_, known⟩
      intro declared
      rw [isLink_eq_true_iff.mpr ⟨name, typeName?_eq_some_iff.mpr named, declared⟩] at unlinked
      cases unlinked

/-- A stored link has the type of the model that its field is typed by. -/
theorem Lands.type_of_link (indexed : schema.models stack = .ok models) {id : Option Text}
    (lands : Lands stack models schema.enums model field (.link pointer id)) :
    field.type = .named pointer.type ∧ pointer.type ∈ models.keys := by
  cases lands with
  | link leads _ _ _ => exact type_of_targetOf indexed leads

end

section

variable {stack : Stack} {schema : Prisma.Schema} {models : Table Text Model}
  {result : Esdl.Schema} (indexed : schema.models stack = .ok models)
  (converted : (convert stack schema).outcome = .ok result)

include indexed converted

/-- The type of a field that lands somewhere names something in the converted schema. -/
theorem Lands.resolves {model : Model} {field : Field} {placement : Placement}
    (lands : Lands stack models schema.enums model field placement) :
    Resolves result field.type := by
  have enums := (types_of_convert indexed converted).1
  have types := keys_types_of_convert indexed converted
  cases placement with
  | property pointer =>
      obtain ⟨name, named, _, ⟨listed, _⟩ | ⟨_, known⟩⟩ := lands.type_of_property
      · rw [named]
        exact .inr (.inl (enums ▸ listed))
      · rw [named]
        exact .inr (.inr (Table.mem_keys_of_mem_entries (Table.get?_eq_some_iff.mp known)))
  | link pointer id =>
      obtain ⟨named, declared⟩ := lands.type_of_link indexed
      rw [named]
      exact .inl (types ▸ declared)
  | backlink computed =>
      cases lands with
      | backlink leads _ =>
          obtain ⟨named, declared⟩ := type_of_targetOf indexed leads
          rw [named]
          exact .inl (types ▸ declared)

end

/-! ### Converted schemas -/

/-- Every pointer of a converted schema has a type that the schema knows. A property has the type of
the enum that its field is typed by or, where there is no such enum, what the table has for the
scalar; its field is typed by no model. A stored link has the type of the object type that its field
is typed by. What stands in one of the tables of an object type is made of a field whose type is
the name of an object type, an enum or a scalar, and no call. -/
theorem pointer_types_resolve {stack : Stack} {schema : Prisma.Schema} {result : Esdl.Schema}
    (converted : (convert stack schema).outcome = .ok result) {name : Text} {type : ObjectType}
    (declared : result.types.get? name = some type) :
    ∃ models, schema.models stack = .ok models ∧ ∃ model, models.get? name = some model ∧
      (∀ pointerName pointer, type.props.get? pointerName = some pointer →
        ∃ field typeName, model.fields.get? pointerName = some field ∧
          field.type = .named typeName ∧ typeName ∉ models.keys ∧
          (typeName ∈ result.enums.keys ∧ pointer.type = typeName ∨
            typeName ∉ result.enums.keys ∧ scalarTypes.get? typeName = some pointer.type)) ∧
      (∀ pointerName pointer, type.links.get? pointerName = some pointer →
        ∃ field, model.fields.get? pointerName = some field ∧
          field.type = .named pointer.type ∧ pointer.type ∈ result.types.keys) ∧
      ∀ fieldName, fieldName ∈ type.props.keys ∨ fieldName ∈ type.links.keys ∨
          fieldName ∈ type.backlinks.keys →
        ∃ field, model.fields.get? fieldName = some field ∧ Resolves result field.type := by
  obtain ⟨models, indexed⟩ := exists_models_of_convert converted
  obtain ⟨model, member, rfl, outcome⟩ :=
    exists_model_of_convert indexed converted (Table.get?_eq_some_iff.mp declared)
  have unique := Schema.isIndexed_of_mem indexed member
  have enums := (types_of_convert indexed converted).1
  have recorded : ∀ {field : Field}, field ∈ model.fields.contents →
      model.fields.get? field.name = some field :=
    fun member => Table.get?_eq_some_iff.mpr (unique.mem_entries member)
  refine ⟨models, indexed, model, (Schema.get?_models_iff indexed).mpr ⟨member, rfl⟩, ?_, ?_, ?_⟩
  · intro pointerName pointer found
    obtain ⟨field, member, rfl, lands⟩ :=
      (mem_props_iff unique outcome).mp (Table.get?_eq_some_iff.mp found)
    obtain ⟨typeName, named, unmodelled, known⟩ := lands.type_of_property
    exact ⟨field, typeName, recorded member, named, unmodelled, enums ▸ known⟩
  · intro pointerName pointer found
    obtain ⟨field, member, rfl, id, lands⟩ :=
      (mem_links_iff unique outcome).mp (Table.get?_eq_some_iff.mp found)
    obtain ⟨named, known⟩ := lands.type_of_link indexed
    exact ⟨field, recorded member, named, keys_types_of_convert indexed converted ▸ known⟩
  · intro fieldName known
    obtain ⟨field, member, rfl, placement, lands⟩ := exists_lands_of_mem_keys unique outcome known
    exact ⟨field, recorded member, lands.resolves indexed converted⟩

/-- Authors and their books. What a book is was first declared by a call, and an enum has the name
of a scalar. -/
def library : Prisma.Schema := ⟨[
  .enum "Json" [.value "PRINTED", .value "SPOKEN"],
  .model "Book" [.field ⟨"outline", .call "Unsupported" [.text "circle"], false, false, []⟩],
  .model "Author" [.field ⟨"books", .text "Book", true, false, []⟩],
  .model "Book" [
    .field ⟨"author", .text "Author", false, false, [⟨"relation", []⟩]⟩,
    .field ⟨"title", .text "String", false, false, []⟩,
    .field ⟨"form", .text "Json", false, true, []⟩]]⟩

theorem library_types_resolve :
    ∃ result type, ((convert .usual library).outcome = .ok result ∧
        result.types.get? "Book" = some type) ∧
      ∃ models, library.models .usual = .ok models ∧ ∃ model, models.get? "Book" = some model ∧
        (∀ pointerName pointer, type.props.get? pointerName = some pointer →
          ∃ field typeName, model.fields.get? pointerName = some field ∧
            field.type = .named typeName ∧ typeName ∉ models.keys ∧
            (typeName ∈ result.enums.keys ∧ pointer.type = typeName ∨
              typeName ∉ result.enums.keys ∧ scalarTypes.get? typeName = some pointer.type)) ∧
        (∀ pointerName pointer, type.links.get? pointerName = some pointer →
          ∃ field, model.fields.get? pointerName = some field ∧
            field.type = .named pointer.type ∧ pointer.type ∈ result.types.keys) ∧
        ∀ fieldName, fieldName ∈ type.props.keys ∨ fieldName ∈ type.links.keys ∨
            fieldName ∈ type.backlinks.keys →
          ∃ field, model.fields.get? fieldName = some field ∧ Resolves result field.type := by
  have converted : (convert .usual library).outcome = .ok _ := rfl
  exact ⟨_, _, ⟨converted, rfl⟩, pointer_types_resolve converted rfl⟩

end PrismaEsdl.Conversion
