import Mathlib.Data.List.Nodup
import PrismaEsdl.Proofs.Conversion.Collecting

/-!
How the fields of a model are shared out.

A field of a converted model stands in exactly one of the three tables of its object type, and each
table keeps the order of the fields (`Partitions`). What is stored of a field is read off the field
alone: its kind is that of the table, and neither the other fields nor the target of a link say
anything about how many values it holds, whether they are unique or what the default is (`Stores`).
`fields_land_once` says both of every model of a converted schema.
-/

namespace PrismaEsdl.Conversion

open Prisma Esdl Log

/-! ### Tables of placed fields -/

section

variable {α β : Type} {view : Placement → Option α} {view' : Placement → Option β}
  {placed : List (Field × Placement)}

/-- The names in a table of placed fields stand in the order in which the fields were placed. -/
theorem keys_entriesOf_sublist (view : Placement → Option α) (placed : List (Field × Placement)) :
    ((entriesOf view placed).map Prod.fst).Sublist (placed.map fun pair => pair.1.name) := by
  induction placed with
  | nil => exact .slnil
  | cons pair rest ih =>
      cases seen : view pair.2 with
      | none => simpa [entriesOf, seen] using ih.cons pair.1.name
      | some content => simpa [entriesOf, seen] using ih.cons_cons pair.1.name

theorem mem_keys_entriesOf {name : Text} :
    name ∈ (entriesOf view placed).map Prod.fst ↔
      ∃ pair ∈ placed, pair.1.name = name ∧ (view pair.2).isSome = true := by
  constructor
  · intro known
    obtain ⟨⟨_, content⟩, recorded, rfl⟩ := List.mem_map.mp known
    obtain ⟨pair, member, named, seen⟩ := mem_entriesOf.mp recorded
    exact ⟨pair, member, named, Option.isSome_of_eq_some seen⟩
  · rintro ⟨pair, member, rfl, visible⟩
    obtain ⟨content, seen⟩ := Option.isSome_iff_exists.mp visible
    exact List.mem_map.mpr ⟨_, mem_entriesOf.mpr ⟨pair, member, rfl, seen⟩, rfl⟩

/-- Two tables that never show the same placement have no name in common. -/
theorem disjoint_keys_entriesOf (distinct : (placed.map fun pair => pair.1.name).Nodup)
    (exclusive : ∀ placement, (view placement).isSome = true → view' placement = none) :
    ((entriesOf view placed).map Prod.fst).Disjoint ((entriesOf view' placed).map Prod.fst) := by
  intro name here there
  obtain ⟨pair, member, named, seen⟩ := mem_keys_entriesOf.mp here
  obtain ⟨other, member', named', seen'⟩ := mem_keys_entriesOf.mp there
  have same : pair = other :=
    List.inj_on_of_nodup_map distinct member member' (named.trans named'.symm)
  subst same
  rw [exclusive _ seen] at seen'
  cases seen'

end

/-! ### The tables of an object type -/

/-- An object type whose tables share out the fields of a model: every name is in exactly one of
them, and each keeps the order of the fields. -/
structure Partitions (type : ObjectType) (model : Model) : Prop where
  cover : ∀ name, name ∈ model.fields.keys ↔
    name ∈ type.props.keys ∨ name ∈ type.links.keys ∨ name ∈ type.backlinks.keys
  props_disjoint_links : type.props.keys.Disjoint type.links.keys
  props_disjoint_backlinks : type.props.keys.Disjoint type.backlinks.keys
  links_disjoint_backlinks : type.links.keys.Disjoint type.backlinks.keys
  props_sublist : type.props.keys.Sublist model.fields.keys
  links_sublist : type.links.keys.Sublist model.fields.keys
  backlinks_sublist : type.backlinks.keys.Sublist model.fields.keys

/-- A pointer that stores a field of a model. -/
structure Stores (stack : Stack) (enums : Table Text (List Text)) (model : Model)
    (kind : PointerKind) (field : Field) (pointer : Pointer) : Prop where
  kind_eq : pointer.kind = kind
  multi_eq : pointer.isMulti = field.array
  required_iff : pointer.isRequired = true ↔ field.array = false ∧ field.optional = false
  exclusive_eq : pointer.exclusive = field.isUnique
  default_eq : (pointerDefault stack enums model.name field).outcome = .ok pointer.default

section

variable {stack : Stack} {models : Table Text Model} {enums : Table Text (List Text)}
  {model : Model}

theorem stores_pointerOf (kind : PointerKind) (type : Text) {field : Field}
    (fits : FitsDefault stack enums field) :
    Stores stack enums model kind field (pointerOf kind type field (defaultOf enums field)) where
  kind_eq := rfl
  multi_eq := by
    cases listed : field.array <;> cases omitted : field.optional <;>
      simp [pointerOf, Pointer.isMulti, Cardinality.of, listed, omitted]
  required_iff := by
    cases listed : field.array <;> cases omitted : field.optional <;>
      simp [pointerOf, Pointer.isRequired, Cardinality.of, listed, omitted]
  exclusive_eq := rfl
  default_eq := outcome_pointerDefault_eq_ok_iff.mpr ⟨fits, rfl⟩

variable {type : ObjectType} (indexed : model.IsIndexed)
  (outcome : (objectType stack models enums model).outcome = .ok type)

include indexed outcome

/-- The tables of the object type of a model share out its fields. -/
theorem partitions_of_objectType : Partitions type model := by
  obtain ⟨placed, fields, _, collected⟩ := collected_of_objectType indexed outcome
  have names : model.fields.keys = placed.map fun pair => pair.1.name := by
    rw [Table.keys_eq_names indexed, ← fields, List.map_map]
    rfl
  have distinct : (placed.map fun pair => pair.1.name).Nodup := names ▸ model.fields.keys_nodup
  have props : type.props.keys = (entriesOf Placement.property? placed).map Prod.fst := by
    rw [Table.keys, collected.props]
  have links : type.links.keys = (entriesOf Placement.link? placed).map Prod.fst := by
    rw [Table.keys, collected.links]
  have backlinks : type.backlinks.keys = (entriesOf Placement.backlink? placed).map Prod.fst := by
    rw [Table.keys, collected.backlinks]
  have ofProperty : ∀ placement : Placement, placement.property?.isSome = true →
      placement.link? = none ∧ placement.backlink? = none := by
    intro placement seen
    cases placement with
    | property pointer => exact ⟨rfl, rfl⟩
    | link _ _ | backlink _ => cases seen
  constructor
  case cover =>
    intro name
    rw [names, props, links, backlinks, mem_keys_entriesOf, mem_keys_entriesOf,
      mem_keys_entriesOf, List.mem_map]
    constructor
    · rintro ⟨⟨field, placement⟩, member, named⟩
      cases placement with
      | property pointer => exact .inl ⟨_, member, named, rfl⟩
      | link pointer id => exact .inr (.inl ⟨_, member, named, rfl⟩)
      | backlink computed => exact .inr (.inr ⟨_, member, named, rfl⟩)
    · rintro (⟨pair, member, named, _⟩ | ⟨pair, member, named, _⟩ | ⟨pair, member, named, _⟩) <;>
        exact ⟨pair, member, named⟩
  case props_disjoint_links =>
    rw [props, links]
    exact disjoint_keys_entriesOf distinct fun placement seen => (ofProperty placement seen).1
  case props_disjoint_backlinks =>
    rw [props, backlinks]
    exact disjoint_keys_entriesOf distinct fun placement seen => (ofProperty placement seen).2
  case links_disjoint_backlinks =>
    rw [links, backlinks]
    refine disjoint_keys_entriesOf distinct fun placement seen => ?_
    cases placement with
    | link _ _ => rfl
    | property _ | backlink _ => cases seen
  case props_sublist => exact props ▸ names ▸ keys_entriesOf_sublist _ placed
  case links_sublist => exact links ▸ names ▸ keys_entriesOf_sublist _ placed
  case backlinks_sublist => exact backlinks ▸ names ▸ keys_entriesOf_sublist _ placed

end

/-- In a converted schema every field of every model lands in exactly one place. The object types
are those of the models, in their order; the tables of each share out the fields of its model, and
what is stored of a field is read off the field. -/
theorem fields_land_once {stack : Stack} {schema : Prisma.Schema} {result : Esdl.Schema}
    (converted : (convert stack schema).outcome = .ok result) :
    ∃ models, schema.models stack = .ok models ∧ result.types.keys = models.keys ∧
      ∀ model ∈ models.contents, ∃ type, result.types.get? model.name = some type ∧
        Partitions type model ∧
        (∀ name pointer, type.props.get? name = some pointer →
          ∃ field, model.fields.get? name = some field ∧
            Stores stack schema.enums model .property field pointer) ∧
        ∀ name pointer, type.links.get? name = some pointer →
          ∃ field, model.fields.get? name = some field ∧
            Stores stack schema.enums model .link field pointer := by
  obtain ⟨models, indexed⟩ := exists_models_of_convert converted
  refine ⟨models, indexed, keys_types_of_convert indexed converted, fun model declared => ?_⟩
  obtain ⟨type, recorded, outcome⟩ := exists_type_of_convert indexed converted declared
  have unique := Schema.isIndexed_of_mem indexed declared
  refine ⟨type, Table.get?_eq_some_iff.mpr recorded,
    partitions_of_objectType unique outcome, ?_, ?_⟩
  · intro name pointer found
    obtain ⟨field, member, rfl, lands⟩ :=
      (mem_props_iff unique outcome).mp (Table.get?_eq_some_iff.mp found)
    refine ⟨field, Table.get?_eq_some_iff.mpr (unique.mem_entries member), ?_⟩
    cases lands with
    | property _ _ _ fits => exact stores_pointerOf .property _ fits
  · intro name pointer found
    obtain ⟨field, member, rfl, id, lands⟩ :=
      (mem_links_iff unique outcome).mp (Table.get?_eq_some_iff.mp found)
    refine ⟨field, Table.get?_eq_some_iff.mpr (unique.mem_entries member), ?_⟩
    cases lands with
    | link _ _ _ fits => exact stores_pointerOf .link _ fits

/-- Users with unique addresses and many nicknames, and posts with one author each. -/
def forum : Prisma.Schema := ⟨[
  .model "User" [
    .field ⟨"posts", .text "Post", true, false, []⟩,
    .field ⟨"email", .text "String", false, false, [⟨"unique", []⟩]⟩,
    .field ⟨"nicknames", .text "String", true, false, []⟩],
  .model "Post" [
    .field ⟨"author", .text "User", false, true,
      [⟨"relation", [.keyed "fields" (.list [.text "authorId"])]⟩]⟩,
    .field ⟨"authorId", .text "String", false, true, []⟩,
    .field ⟨"title", .text "String", false, false, [⟨"default", [.text "untitled"]⟩]⟩]]⟩

theorem forum_fields_land_once :
    ∃ result, (convert .usual forum).outcome = .ok result ∧
      ∃ models, forum.models .usual = .ok models ∧ result.types.keys = models.keys ∧
        ∀ model ∈ models.contents, ∃ type, result.types.get? model.name = some type ∧
          Partitions type model ∧
          (∀ name pointer, type.props.get? name = some pointer →
            ∃ field, model.fields.get? name = some field ∧
              Stores .usual forum.enums model .property field pointer) ∧
          ∀ name pointer, type.links.get? name = some pointer →
            ∃ field, model.fields.get? name = some field ∧
              Stores .usual forum.enums model .link field pointer := by
  have converted : (convert .usual forum).outcome = .ok _ := rfl
  exact ⟨_, converted, fields_land_once converted⟩

end PrismaEsdl.Conversion
