import Mathlib.Data.List.Basic
import PrismaEsdl.Proofs.Conversion.Collecting

/-!
When a conversion succeeds, and what it tells.

A schema is converted exactly if it has an index and every field of every model lands somewhere
(`converts_iff`). Then what is told is what is told of each field by itself, with three kinds of
events around it (`events_convert`).
-/

namespace PrismaEsdl.Conversion

open Prisma Esdl Log

section

variable {stack : Stack} {models : Table Text Model} {enums : Table Text (List Text)}
  {model : Model}

theorem sequences_placeFields : Run.Sequences (placeFields stack models enums model)
    (placeField stack models enums model)
    fun type field placement => placement.into type field.name where
  nil _ := rfl
  cons _ _ _ := rfl

theorem sequences_objectTypes : Run.Sequences (objectTypes stack models enums)
    (objectType stack models enums) fun types model type => types.insert model.name type where
  nil _ := rfl
  cons _ _ _ := rfl

/-- A model has an object type exactly if each of its fields lands somewhere. -/
theorem objectType_succeeds_iff :
    (∃ type, (objectType stack models enums model).outcome = .ok type) ↔
      ∀ field ∈ model.fields.contents,
        ∃ placement, Lands stack models enums model field placement := by
  rw [objectType, sequences_placeFields.ends_well_iff]
  simp only [outcome_placeField_eq_ok_iff]

theorem events_objectType
    (land : ∀ field ∈ model.fields.contents,
      ∃ placement, Lands stack models enums model field placement) :
    (objectType stack models enums model).events
      = model.fields.contents.flatMap
          fun field => (placeField stack models enums model field).events := by
  refine sequences_placeFields.events_eq _ fun field member => ?_
  simpa only [outcome_placeField_eq_ok_iff] using land field member

end

/-- Each field of each model of an index lands somewhere. -/
def AllLand (stack : Stack) (models : Table Text Model) (enums : Table Text (List Text)) : Prop :=
  ∀ model ∈ models.contents, ∀ field ∈ model.fields.contents,
    ∃ placement, Lands stack models enums model field placement

section

variable {stack : Stack} {schema : Prisma.Schema} {models : Table Text Model}
  (indexed : schema.models stack = .ok models)

include indexed

/-- Once the object types of its models are made, a schema is converted. -/
theorem convert_of_objectTypes {types : Table Text ObjectType}
    (made : (objectTypes stack models schema.enums models.contents ∅).outcome = .ok types) :
    (convert stack schema).outcome = .ok ⟨schema.enums, types⟩ ∧
      (convert stack schema).events = .modelsIndexed models.keys
        :: ((schema.enumDeclarations.map fun declared => Event.enumRead declared.1 declared.2)
          ++ ((objectTypes stack models schema.enums models.contents ∅).events
            ++ [.schemaConverted schema.enums.size types.size])) := by
  rw [convert_of_models indexed]
  revert made
  generalize objectTypes stack models schema.enums models.contents ∅ = run
  obtain ⟨events, outcome⟩ := run
  rintro ⟨⟩
  exact ⟨rfl, rfl⟩

/-- A schema with an index is converted exactly if each field of each model lands somewhere. -/
theorem converts_iff_of_models :
    (∃ result, (convert stack schema).outcome = .ok result) ↔
      AllLand stack models schema.enums := by
  constructor
  · rintro ⟨result, converted⟩ model declared field member
    obtain ⟨type, _, outcome⟩ := exists_type_of_convert indexed converted declared
    exact lands_of_objectType (Schema.isIndexed_of_mem indexed declared) outcome member
  · intro land
    obtain ⟨types, outcome⟩ := (sequences_objectTypes.ends_well_iff models.contents ∅).mpr
      fun model declared => objectType_succeeds_iff.mpr (land model declared)
    exact ⟨_, (convert_of_objectTypes indexed outcome).1⟩

/-- What a conversion that succeeds tells: the models and the enums, then what is told of each
field, and at last how much was converted. -/
theorem events_convert (land : AllLand stack models schema.enums) :
    ∃ types, (convert stack schema).events = .modelsIndexed models.keys
      :: ((schema.enumDeclarations.map fun declared => Event.enumRead declared.1 declared.2)
        ++ ((models.contents.flatMap fun model => model.fields.contents.flatMap fun field =>
            (placeField stack models schema.enums model field).events)
          ++ [.schemaConverted schema.enums.size types])) := by
  have succeed : ∀ model ∈ models.contents,
      ∃ type, (objectType stack models schema.enums model).outcome = .ok type :=
    fun model member => objectType_succeeds_iff.mpr (land model member)
  obtain ⟨types, outcome⟩ := (sequences_objectTypes.ends_well_iff models.contents ∅).mpr succeed
  have fields : models.contents.flatMap
        (fun model => (objectType stack models schema.enums model).events)
      = models.contents.flatMap fun model => model.fields.contents.flatMap fun field =>
          (placeField stack models schema.enums model field).events :=
    List.flatMap_congr fun model member => events_objectType (land model member)
  refine ⟨types.size, ?_⟩
  rw [(convert_of_objectTypes indexed outcome).2, sequences_objectTypes.events_eq ∅ succeed, fields]

end

/-- A schema is converted exactly if it has an index and each field of each model lands
somewhere. -/
theorem converts_iff {stack : Stack} {schema : Prisma.Schema} :
    (∃ result, (convert stack schema).outcome = .ok result) ↔
      ∃ models, schema.models stack = .ok models ∧ AllLand stack models schema.enums := by
  constructor
  · rintro ⟨result, converted⟩
    obtain ⟨models, indexed⟩ := exists_models_of_convert converted
    exact ⟨models, indexed, (converts_iff_of_models indexed).mp ⟨result, converted⟩⟩
  · rintro ⟨models, indexed, land⟩
    exact (converts_iff_of_models indexed).mpr land

end PrismaEsdl.Conversion
