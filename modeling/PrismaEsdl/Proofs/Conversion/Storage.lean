import PrismaEsdl.Proofs.Conversion.Pairing
import PrismaEsdl.Proofs.Conversion.Partition

/-!
What is stored of a converted model.

The link ids of an object type are recorded while its fields are placed, without repetition
(`nodup_linkIds_of_objectType`). In the end they are the names that the stored links give as their
only id field, and no others; the stored pointers are the properties in the order of the fields, and
then the links in the order of the fields, without those that have one of these names
(`linkIds_of_stored_links`).
-/

namespace PrismaEsdl.Table

variable {κ : Type u} {α : Type v} [DecidableEq κ]

/-- Looking up the keys of a table gives its entries. -/
theorem filterMap_keys (table : Table κ α) :
    (table.keys.filterMap fun key => (table.get? key).map (key, ·)) = table.entries := by
  have found : ∀ entry ∈ table.entries,
      (table.get? entry.1).map (entry.1, ·) = some entry := by
    intro entry member
    rw [get?_eq_some_iff.mpr member]
    rfl
  rw [keys, List.filterMap_map]
  exact (List.filterMap_congr found).trans List.filterMap_some

/-- Looking up distinct names among which the keys of a table stand in their order gives its
entries. -/
theorem filterMap_of_sublist {table : Table κ α} {names : List κ}
    (ordered : table.keys.Sublist names) (distinct : names.Nodup) :
    (names.filterMap fun name => (table.get? name).map (name, ·)) = table.entries := by
  have kept : names.filter (· ∈ table.keys) = table.keys := by
    have within : table.keys.Sublist (names.filter (· ∈ table.keys)) := by
      have filtered := ordered.filter fun key => decide (key ∈ table.keys)
      rwa [List.filter_eq_self.mpr fun key member => decide_eq_true member] at filtered
    have same : (names.filter (· ∈ table.keys)).Perm table.keys := by
      rw [List.perm_ext_iff_of_nodup (distinct.filter _) table.keys_nodup]
      intro key
      rw [List.mem_filter, decide_eq_true_iff]
      exact ⟨And.right, fun known => ⟨ordered.subset known, known⟩⟩
    exact (within.eq_of_length same.length_eq.symm).symm
  rw [← filterMap_keys, ← kept, List.filterMap_filter]
  apply List.filterMap_congr
  intro name _
  by_cases known : name ∈ table.keys
  · simp [known]
  · simp [known, get?_eq_none_iff.mpr known]

end PrismaEsdl.Table

namespace PrismaEsdl.Conversion

open Prisma Esdl Log

/-! ### Link ids -/

section

variable {stack : Stack} {models : Table Text Model} {enums : Table Text (List Text)}
  {model : Model}

/-- Placing a field records no link id twice. -/
theorem nodup_linkIds_into {type : ObjectType} (distinct : type.linkIds.Nodup) (name : Text)
    (placement : Placement) : (placement.into type name).linkIds.Nodup := by
  cases placement with
  | property _ | backlink _ => exact distinct
  | link pointer id =>
      refine List.nodup_append.mpr ⟨distinct, ?_, ?_⟩
      · cases id with
        | none => exact List.nodup_nil
        | some id => exact (List.nodup_singleton id).filter _
      · intro known recorded fresh added same
        subst same
        have unrecorded := (List.mem_filter.mp added).2
        simp [recorded] at unrecorded

/-- Placing fields one after the other records no link id twice. -/
theorem nodup_linkIds_of_placeFields {fields : List Field} {type result : ObjectType}
    (distinct : type.linkIds.Nodup)
    (outcome : (placeFields stack models enums model fields type).outcome = .ok result) :
    result.linkIds.Nodup := by
  induction fields generalizing type with
  | nil =>
      cases outcome
      exact distinct
  | cons field rest ih =>
      obtain ⟨placement, _, later⟩ := Run.outcome_bind_eq_ok_iff.mp outcome
      exact ih (nodup_linkIds_into distinct field.name placement) later

theorem nodup_linkIds_of_objectType {type : ObjectType}
    (outcome : (objectType stack models enums model).outcome = .ok type) : type.linkIds.Nodup :=
  nodup_linkIds_of_placeFields List.nodup_nil outcome

variable {type : ObjectType} (indexed : model.IsIndexed)
  (outcome : (objectType stack models enums model).outcome = .ok type)

include indexed outcome

/-- The link ids are the names that the stored links give as their only id field. -/
theorem mem_linkIds_iff_mem_links {id : Text} :
    id ∈ type.linkIds ↔
      ∃ field ∈ model.fields.contents, field.name ∈ type.links.keys ∧
        ∃ relation, field.relation? = some relation ∧ relation.fields = some [id] := by
  rw [mem_linkIds_iff indexed outcome]
  constructor
  · rintro ⟨field, member, pointer, lands⟩
    have stored := (mem_links_iff indexed outcome).mpr ⟨field, member, rfl, _, lands⟩
    cases lands with
    | link _ _ held _ =>
        exact ⟨field, member, Table.mem_keys_of_mem_entries stored,
          Option.bind_eq_some_iff.mp (linkId_eq_ok_some_iff.mp held)⟩
  · rintro ⟨field, member, known, named⟩
    obtain ⟨pointer, stored⟩ := Table.exists_content_of_mem_keys known
    obtain ⟨other, member', same, _, lands⟩ := (mem_links_iff indexed outcome).mp stored
    obtain rfl : field = other := indexed.field_unique member member' same.symm
    have held : linkId model.name field = .ok (some id) :=
      linkId_eq_ok_some_iff.mpr (Option.bind_eq_some_iff.mpr named)
    cases lands with
    | link leads alone _ fits => exact ⟨_, member, _, .link leads alone held fits⟩

end

/-! ### Stored pointers -/

/-- The pointers that a table has under some names, in the order of the names, without those under
hidden names. -/
def shownUnder (names hidden : List Text) (table : Table Text Pointer) : List (Text × Pointer) :=
  names.filterMap fun name =>
    if name ∈ hidden then none else (table.get? name).map (name, ·)

theorem filter_entries_eq_shownUnder {names hidden : List Text} {table : Table Text Pointer}
    (ordered : table.keys.Sublist names) (distinct : names.Nodup) :
    (table.entries.filter fun entry => !hidden.contains entry.1)
      = shownUnder names hidden table := by
  rw [← Table.filterMap_of_sublist ordered distinct, List.filter_filterMap, shownUnder]
  apply List.filterMap_congr
  intro name _
  by_cases hides : name ∈ hidden
  · cases table.get? name <;> simp [hides]
  · cases table.get? name <;> simp [hides]

/-- The stored pointers of an object type whose tables share out the fields of a model: first the
properties, then the links, each in the order of the fields. -/
theorem storedPointers_of_partitions {type : ObjectType} {model : Model}
    (shared : Partitions type model) :
    type.storedPointers = shownUnder model.fields.keys type.linkIds type.props
      ++ shownUnder model.fields.keys type.linkIds type.links := by
  rw [ObjectType.storedPointers, List.filter_append,
    filter_entries_eq_shownUnder shared.props_sublist model.fields.keys_nodup,
    filter_entries_eq_shownUnder shared.links_sublist model.fields.keys_nodup]

/-- What the link ids of a converted model are, and what they leave of its pointers. The link ids
are the names that the relation of some stored link gives as its only id field, each of them once.
The stored pointers are the properties in the order of the fields, then the links in the order of
the fields, without those under a link id. -/
theorem linkIds_of_stored_links {stack : Stack} {schema : Prisma.Schema} {result : Esdl.Schema}
    (converted : (convert stack schema).outcome = .ok result) :
    ∃ models, schema.models stack = .ok models ∧ ∀ model ∈ models.contents,
      ∃ type, result.types.get? model.name = some type ∧
        (∀ id, id ∈ type.linkIds ↔
          ∃ field ∈ model.fields.contents, field.name ∈ type.links.keys ∧
            ∃ relation, field.relation? = some relation ∧ relation.fields = some [id]) ∧
        type.linkIds.Nodup ∧
        type.storedPointers = shownUnder model.fields.keys type.linkIds type.props
          ++ shownUnder model.fields.keys type.linkIds type.links := by
  obtain ⟨models, indexed⟩ := exists_models_of_convert converted
  refine ⟨models, indexed, fun model declared => ?_⟩
  obtain ⟨type, recorded, outcome⟩ := exists_type_of_convert indexed converted declared
  have unique := Schema.isIndexed_of_mem indexed declared
  have shared := partitions_of_objectType unique outcome
  exact ⟨type, Table.get?_eq_some_iff.mpr recorded,
    fun _ => mem_linkIds_iff_mem_links unique outcome, nodup_linkIds_of_objectType outcome,
    storedPointers_of_partitions shared⟩

/-- The fields of an order: a customer and an address, each held by an id field, a shop that no id
field holds, and parcels. The relation of the parcels names the number of the order, but they are a
backlink. -/
def orderProperties : List Property := [
  .field ⟨"customer", .text "Customer", false, false,
    [⟨"relation", [.keyed "fields" (.list [.text "customerId"])]⟩]⟩,
  .field ⟨"customerId", .text "String", false, false, []⟩,
  .field ⟨"shop", .text "Shop", false, false, [⟨"relation", [.keyed "fields" (.list [])]⟩]⟩,
  .field ⟨"address", .text "Address", false, true,
    [⟨"relation", [.keyed "fields" (.text "addressId")]⟩]⟩,
  .field ⟨"addressId", .text "String", false, true, []⟩,
  .field ⟨"parcels", .text "Parcel", true, false,
    [⟨"relation", [.keyed "fields" (.list [.text "number"])]⟩]⟩,
  .field ⟨"number", .text "Int", false, false, []⟩]

/-- Orders, and what they lead to. -/
def orders : Prisma.Schema := ⟨[
  .model "Order" orderProperties,
  .model "Customer" [],
  .model "Shop" [],
  .model "Address" [],
  .model "Parcel" [.field ⟨"order", .text "Order", false, false, [⟨"relation", []⟩]⟩]]⟩

theorem orders_linkIds :
    ∃ result models model, (convert .usual orders).outcome = .ok result ∧
      orders.models .usual = .ok models ∧ model ∈ models.contents ∧
      ∃ type, result.types.get? model.name = some type ∧
        (∀ id, id ∈ type.linkIds ↔
          ∃ field ∈ model.fields.contents, field.name ∈ type.links.keys ∧
            ∃ relation, field.relation? = some relation ∧ relation.fields = some [id]) ∧
        type.linkIds.Nodup ∧
        type.storedPointers = shownUnder model.fields.keys type.linkIds type.props
          ++ shownUnder model.fields.keys type.linkIds type.links := by
  have converted : (convert .usual orders).outcome = .ok _ := rfl
  obtain ⟨models, indexed, linked⟩ := linkIds_of_stored_links converted
  obtain rfl := Except.ok.inj indexed
  exact ⟨_, _, _, converted, indexed, .head _, linked _ (.head _)⟩

end PrismaEsdl.Conversion
