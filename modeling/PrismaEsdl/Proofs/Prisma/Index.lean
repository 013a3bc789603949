import PrismaEsdl.Proofs.Prisma.Relation
import PrismaEsdl.Proofs.Table

/-!
The index of a schema: every model is recorded under its name, and so is every field of a model.
So the names of the indexed models are distinct (`names_nodup`), and the names of the fields of one
model are (`fields_nodup`). There is an index exactly if every type and every relation that is
declared can be shown (`gives_models_iff`).
-/

namespace PrismaEsdl.Prisma

open Outcome (Gives bind_eq_ok_iff gives_bind_iff gives_mapM_iff gives_map_iff gives_ok
  gives_return_iff map_eq_map_of_mapM)

/-- The kind of an attribute that counts, by its name. -/
def AttributeDeclaration.kind? (declaration : AttributeDeclaration) : Option AttributeKind :=
  if declaration.name = "unique" then some .unique
  else if declaration.name = "default" then some .default
  else if declaration.name = "relation" then some .relation
  else none

/-- A model whose fields are recorded under their names. -/
def Model.IsIndexed (model : Model) : Prop :=
  ∀ key field, (key, field) ∈ model.fields.entries → field.name = key

section

variable {stack : Stack}

/-- An attribute is made of a declaration of its kind, and none of one that has no kind. -/
theorem FieldAttribute.kind?_eq {declaration : AttributeDeclaration}
    {found : Option FieldAttribute} (made : ofDeclaration? stack declaration = .ok found) :
    declaration.kind? = found.map kind := by
  unfold ofDeclaration? at made
  unfold AttributeDeclaration.kind?
  split at made
  · rename_i isUnique
    cases made
    rw [if_pos isUnique]
    rfl
  · rename_i notUnique
    rw [if_neg notUnique]
    split at made
    · rename_i isDefault
      cases made
      rw [if_pos isDefault]
      rfl
    · rename_i notDefault
      rw [if_neg notDefault]
      split at made
      · rename_i isRelation
        obtain ⟨relation, _, ⟨⟩⟩ := bind_eq_ok_iff.mp made
        rw [if_pos isRelation]
        rfl
      · rename_i notRelation
        cases made
        rw [if_neg notRelation]
        rfl

theorem Field.name_of_ofDeclaration {declaration : FieldDeclaration} {field : Field}
    (made : ofDeclaration stack declaration = .ok field) : field.name = declaration.name := by
  obtain ⟨type, _, made⟩ := bind_eq_ok_iff.mp made
  obtain ⟨attributes, _, ⟨⟩⟩ := bind_eq_ok_iff.mp made
  rfl

end

namespace Model

variable {stack : Stack} {model : Model}

theorem isIndexed_ofProperties {name : Text} {properties : List Property}
    (made : ofProperties stack name properties = .ok model) :
    model.name = name ∧ model.IsIndexed := by
  obtain ⟨fields, _, ⟨⟩⟩ := bind_eq_ok_iff.mp made
  refine ⟨rfl, fun key field member => ?_⟩
  obtain ⟨other, _, same⟩ := List.mem_map.mp (Table.mem_of_mem_entries_ofList member)
  obtain ⟨rfl, rfl⟩ := Prod.mk.inj same
  rfl

theorem IsIndexed.mem_entries (indexed : model.IsIndexed) {field : Field}
    (member : field ∈ model.fields.contents) : (field.name, field) ∈ model.fields.entries := by
  obtain ⟨key, recorded⟩ := Table.exists_key_of_mem_contents member
  rw [indexed key field recorded]
  exact recorded

/-- The fields of an indexed model have distinct names. -/
theorem IsIndexed.fields_nodup (indexed : model.IsIndexed) :
    (model.fields.contents.map Field.name).Nodup := by
  rw [← Table.keys_eq_names indexed]
  exact model.fields.keys_nodup

/-- A field of an indexed model is determined by its name. -/
theorem IsIndexed.field_unique (indexed : model.IsIndexed) {field other : Field}
    (member : field ∈ model.fields.contents) (member' : other ∈ model.fields.contents)
    (same : field.name = other.name) : field = other := by
  refine Table.content_unique model.fields.distinct (indexed.mem_entries member) ?_
  rw [same]
  exact indexed.mem_entries member'

theorem mem_relationsTo {target : Text} {field : Field} :
    field ∈ model.relationsTo target ↔
      field ∈ model.fields.contents ∧ field.relation?.isSome = true
        ∧ field.typeName? = some target := by
  simp [relationsTo]

end Model

namespace Schema

variable {stack : Stack} {schema : Schema} {models : Table Text Model}

/-- The index holds what is made of the declarations. -/
theorem mapContents_models (indexed : schema.models stack = .ok models) :
    models.mapContents Except.ok
      = .ofList ((schema.declarations.filterMap Declaration.model?).map fun declared =>
          (declared.1, Model.ofProperties stack declared.1 declared.2)) := by
  obtain ⟨made, declared, ⟨⟩⟩ := bind_eq_ok_iff.mp indexed
  rw [Table.mapContents_ofList, List.map_map]
  refine congrArg Table.ofList (map_eq_map_of_mapM declared fun declared model here => ?_).symm
  have here : Model.ofProperties stack declared.1 declared.2 = .ok model := here
  simp only [Function.comp_apply, here, (Model.isIndexed_ofProperties here).1]

section

variable (indexed : schema.models stack = .ok models)

include indexed

theorem mem_models_entries {key : Text} {model : Model} (member : (key, model) ∈ models.entries) :
    model.name = key ∧ model.IsIndexed := by
  have made : (key, Except.ok model) ∈ (models.mapContents (Except.ok (ε := Excess))).entries :=
    List.mem_map.mpr ⟨_, member, rfl⟩
  rw [mapContents_models indexed] at made
  obtain ⟨declared, _, same⟩ := List.mem_map.mp (Table.mem_of_mem_entries_ofList made)
  obtain ⟨rfl, properties⟩ := Prod.mk.inj same
  exact Model.isIndexed_ofProperties properties

theorem isIndexed_of_mem {model : Model} (declared : model ∈ models.contents) :
    model.IsIndexed := by
  obtain ⟨_, member⟩ := Table.exists_key_of_mem_contents declared
  exact (mem_models_entries indexed member).2

/-- The models of a schema have distinct names. -/
theorem names_nodup : (models.contents.map Model.name).Nodup := by
  rw [← Table.keys_eq_names fun _ _ member => (mem_models_entries indexed member).1]
  exact models.keys_nodup

/-- Looking up a name gives the declared model of that name. -/
theorem get?_models_iff {name : Text} {model : Model} :
    models.get? name = some model ↔ model ∈ models.contents ∧ model.name = name := by
  rw [Table.get?_eq_some_iff]
  constructor
  · intro member
    exact ⟨Table.mem_contents_of_mem_entries member, (mem_models_entries indexed member).1⟩
  · rintro ⟨declared, rfl⟩
    obtain ⟨key, member⟩ := Table.exists_key_of_mem_contents declared
    rw [(mem_models_entries indexed member).1]
    exact member

end

end Schema

/-! ### When there is an index -/

/-- Whether the type that a value declares can be named. -/
def Value.FitsType (stack : Stack) : Value → Prop
  | .call _ _ => True
  | value => value.Fits (stack.room .typeName)

/-- Whether all that an attribute says about a relation can be shown. -/
def AttributeDeclaration.Fits (stack : Stack) (declaration : AttributeDeclaration) : Prop :=
  declaration.name = "relation" → ∀ argument ∈ declaration.arguments, Relation.Fits stack argument

/-- Whether the type and the relations of a field can be shown. -/
structure FieldDeclaration.Fits (stack : Stack) (declaration : FieldDeclaration) : Prop where
  type : declaration.type.FitsType stack
  attributes : ∀ declared ∈ declaration.attributes, declared.Fits stack

/-- Whether the types and the relations of all fields can be shown, of those that do not stay in the
index as well. -/
def Schema.Fits (stack : Stack) (schema : Schema) : Prop :=
  ∀ declared ∈ schema.declarations.filterMap Declaration.model?,
    ∀ declaration ∈ declared.2.filterMap Property.field?, declaration.Fits stack

section

variable {stack : Stack}

theorem FieldType.gives_ofValue_iff {value : Value} :
    Gives (FieldType.ofValue stack value) ↔ value.FitsType stack := by
  cases value with
  | call name arguments => exact iff_of_true (gives_ok _) trivial
  | _ => exact gives_map_iff.trans (Value.gives_display_iff _ _)

theorem FieldAttribute.gives_ofDeclaration?_iff {declaration : AttributeDeclaration} :
    Gives (FieldAttribute.ofDeclaration? stack declaration) ↔ declaration.Fits stack := by
  unfold ofDeclaration? AttributeDeclaration.Fits
  split
  · rename_i isUnique
    exact iff_of_true (gives_ok _) (absurd · (isUnique ▸ by decide))
  · split
    · rename_i isDefault
      exact iff_of_true (gives_ok _) (absurd · (isDefault ▸ by decide))
    · split
      · rename_i isRelation
        rw [forall_prop_of_true isRelation]
        exact gives_return_iff.trans Relation.gives_ofArguments_iff
      · rename_i other
        exact iff_of_true (gives_ok _) (absurd · other)

theorem Field.gives_ofDeclaration_iff {declaration : FieldDeclaration} :
    Gives (Field.ofDeclaration stack declaration) ↔ declaration.Fits stack := by
  have both : Gives (Field.ofDeclaration stack declaration) ↔
      Gives (FieldType.ofValue stack declaration.type) ∧
        Gives (declaration.attributes.mapM (FieldAttribute.ofDeclaration? stack)) :=
    gives_bind_iff fun _ => gives_return_iff
  rw [both, FieldType.gives_ofValue_iff, gives_mapM_iff]
  simp only [FieldAttribute.gives_ofDeclaration?_iff]
  exact ⟨fun fits => ⟨fits.1, fits.2⟩, fun fits => ⟨fits.type, fits.attributes⟩⟩

theorem Model.gives_ofProperties_iff {name : Text} {properties : List Property} :
    Gives (Model.ofProperties stack name properties) ↔
      ∀ declaration ∈ properties.filterMap Property.field?, declaration.Fits stack :=
  gives_return_iff.trans (gives_mapM_iff.trans (forall₂_congr fun _ _ =>
    Field.gives_ofDeclaration_iff))

/-- There is an index exactly if all that is declared can be shown. -/
theorem Schema.gives_models_iff {schema : Schema} :
    Gives (schema.models stack) ↔ schema.Fits stack :=
  gives_return_iff.trans (gives_mapM_iff.trans (forall₂_congr fun _ _ =>
    Model.gives_ofProperties_iff))

end

end PrismaEsdl.Prisma
