import PrismaEsdl.Program
import PrismaEsdl.Proofs.Conversion.Partition
import PrismaEsdl.Proofs.Conversion.Success

/-!
What a conversion warns of.

A field that is placed warns at most twice: of the id field of a stored link, if its model does not
have it, and then of a default that its pointer does not have (`Lands.warnings_eq`). Everything else
that is told is told below the level of a warning. So the warnings of a conversion are those of its
fields, one field after the other, and each can be read off the schema that comes out: a default of
a stored field is missing there exactly if there is a warning of it (`warnings_account_for_fields`).
-/

namespace PrismaEsdl.Log.Run

variable {ε α β : Type} {level : Level}

theorem eventsFrom_bind_of_ok {run : Run ε α} {value : α} (good : run.outcome = .ok value)
    (next : α → Run ε β) :
    (run >>= next).eventsFrom level = run.eventsFrom level ++ (next value).eventsFrom level := by
  rw [eventsFrom, events_bind_of_ok good, List.filter_append]
  rfl

@[simp] theorem eventsFrom_pure (value : α) : (pure value : Run ε α).eventsFrom level = [] := rfl

@[simp] theorem eventsFrom_ofExcept (outcome : Except ε α) :
    (ofExcept outcome).eventsFrom level = [] := rfl

/-- Events that are all at a level are kept. -/
theorem eventsFrom_tellAll_of_le {events : List Event}
    (high : ∀ event ∈ events, level.rank ≤ event.level.rank) :
    (tellAll events : Run ε Unit).eventsFrom level = events := by
  rw [eventsFrom, tellAll, List.filter_eq_self]
  intro event member
  exact decide_eq_true (high event member)

end PrismaEsdl.Log.Run

namespace PrismaEsdl.Conversion

open Prisma Esdl Log
open Outcome (Gives bind_eq_ok_iff)

/-! ### The warnings of a placed field -/

/-- The warning of a default that has no expression, if there is one. -/
def dropWarning (stack : Stack) (model : Model) (field : Field) (expression : Option Text) :
    List Event :=
  (unexpressed? field expression).toList.filterMap fun value =>
    (droppedDefault stack model.name field value).toOption

/-- The warning of an id field that is not there. -/
def idWarning (model : Model) (field : Field) (id : Option Text) : List Event :=
  (id.toList.filter (!model.fields.contains ·)).map (.idUndeclared model.name field.name ·)

/-- What is warned of when a field is placed. -/
def Placement.warnings (stack : Stack) (model : Model) (field : Field) : Placement → List Event
  | property pointer => dropWarning stack model field pointer.default
  | link pointer id => idWarning model field id ++ dropWarning stack model field pointer.default
  | backlink _ => []

section

variable {stack : Stack} {models : Table Text Model} {enums : Table Text (List Text)}
  {model : Model} {field : Field} {placement : Placement}

theorem droppedDefault_eq_ok_iff {name : Text} {value : Value} {event : Event} :
    droppedDefault stack name field value = .ok event ↔
      ∃ shown type, value.display (stack.room .droppedDefault) = .ok shown ∧
        field.type.display (stack.room .droppedDefault) = .ok type ∧
        event = .defaultDropped name field.name shown type := by
  unfold droppedDefault
  constructor
  · intro made
    obtain ⟨shown, here, made⟩ := bind_eq_ok_iff.mp made
    obtain ⟨type, named, ⟨⟩⟩ := bind_eq_ok_iff.mp made
    exact ⟨shown, type, here, named, rfl⟩
  · rintro ⟨shown, type, here, named, rfl⟩
    exact bind_eq_ok_iff.mpr ⟨shown, here, bind_eq_ok_iff.mpr ⟨type, named, rfl⟩⟩

theorem mem_dropWarning_iff {expression : Option Text} {event : Event} :
    event ∈ dropWarning stack model field expression ↔
      ∃ value, unexpressed? field expression = some value ∧
        ∃ shown type, value.display (stack.room .droppedDefault) = .ok shown ∧
          field.type.display (stack.room .droppedDefault) = .ok type ∧
          event = .defaultDropped model.name field.name shown type := by
  simp only [dropWarning, List.mem_filterMap, Option.mem_toList, ← droppedDefault_eq_ok_iff]
  refine exists_congr fun value => and_congr_right fun _ => ?_
  cases droppedDefault stack model.name field value <;> simp [Except.toOption]

theorem eventsFrom_pointerDefault (fits : FitsDefault stack enums field) :
    (pointerDefault stack enums model.name field).eventsFrom .warning
      = dropWarning stack model field (defaultOf enums field) := by
  rw [pointerDefault_eq]
  unfold dropWarning
  cases left : unexpressed? field (defaultOf enums field) with
  | none => rfl
  | some value =>
      obtain ⟨event, made⟩ : Gives (droppedDefault stack model.name field value) :=
        gives_droppedDefault_iff.mpr (fits value left)
      obtain ⟨shown, type, _, _, rfl⟩ := droppedDefault_eq_ok_iff.mp made
      simp only [made, Except.mapError, Run.ofExcept_ok, pure_bind, Except.toOption,
        Option.toList_some, List.filterMap_cons, List.filterMap_nil]
      rfl

theorem eventsFrom_warnUndeclared {id : Option Text} :
    (warnUndeclared model field id).eventsFrom .warning = idWarning model field id := by
  rw [warnUndeclared]
  refine Run.eventsFrom_tellAll_of_le fun event member => ?_
  obtain ⟨id, _, rfl⟩ := List.mem_map.mp member
  exact Int.le_refl _

theorem eventsFrom_placeProperty {type : Text}
    (typed : propertyType stack enums scalarTypes model.name field = .ok type)
    (fits : FitsDefault stack enums field) :
    (placeProperty stack enums model field).eventsFrom .warning
      = dropWarning stack model field (defaultOf enums field) := by
  have dropped : (pointerDefault stack enums model.name field).outcome = .ok _ :=
    outcome_pointerDefault_eq_ok_iff.mpr ⟨fits, rfl⟩
  unfold placeProperty
  rw [Run.eventsFrom_bind_of_ok ((Run.outcome_ofExcept _).trans typed),
    Run.eventsFrom_bind_of_ok dropped, eventsFrom_pointerDefault fits]
  simp

theorem eventsFrom_placeLink_of_alone {target : Model} {id : Option Text}
    (leads : targetOf stack models model.name field = .ok target)
    (alone : target.relationsTo model.name = []) (held : linkId model.name field = .ok id)
    (fits : FitsDefault stack enums field) :
    (placeLink stack models enums model field).eventsFrom .warning
      = idWarning model field id ++ dropWarning stack model field (defaultOf enums field) := by
  have warned : (warnUndeclared model field id).outcome = .ok () := rfl
  have dropped : (pointerDefault stack enums model.name field).outcome = .ok _ :=
    outcome_pointerDefault_eq_ok_iff.mpr ⟨fits, rfl⟩
  have quiet : (Run.tell (.linkMade model.name field.name target.name)
      : Run Obstacle Unit).eventsFrom .warning = [] := rfl
  rw [placeLink_of_targetOf leads]
  simp only [alone]
  rw [Run.eventsFrom_bind_of_ok ((Run.outcome_ofExcept _).trans held),
    Run.eventsFrom_bind_of_ok warned, eventsFrom_warnUndeclared,
    Run.eventsFrom_bind_of_ok dropped, eventsFrom_pointerDefault fits,
    Run.eventsFrom_bind_of_ok (Run.outcome_tell _), quiet]
  simp

theorem eventsFrom_placeLink_of_paired {target : Model} {inverse : Field}
    (leads : targetOf stack models model.name field = .ok target)
    (paired : target.relationsTo model.name = [inverse]) :
    (placeLink stack models enums model field).eventsFrom .warning = [] := by
  rw [placeLink_of_targetOf leads]
  simp only [paired]
  rfl

/-- What is warned of when a field is placed depends on where it lands. -/
theorem Lands.warnings_eq (lands : Lands stack models enums model field placement) :
    (placeField stack models enums model field).eventsFrom .warning
      = placement.warnings stack model field := by
  have placed := fun linked : isLink models field = true =>
    (show (Run.ofExcept (checkTarget stack models model.name field)).outcome = .ok () by
      simp [checkTarget, linked])
  unfold placeField
  cases lands with
  | property unlinked unrelated typed fits =>
      have checked :
          (Run.ofExcept (checkTarget stack models model.name field)).outcome = .ok () := by
        simp [checkTarget, unrelated]
      rw [Run.eventsFrom_bind_of_ok checked, if_neg (by simp [unlinked]),
        eventsFrom_placeProperty typed fits]
      rfl
  | link leads alone held fits =>
      rw [Run.eventsFrom_bind_of_ok (placed (isLink_of_targetOf leads)),
        if_pos (isLink_of_targetOf leads),
        eventsFrom_placeLink_of_alone leads alone held fits]
      rfl
  | backlink leads paired =>
      rw [Run.eventsFrom_bind_of_ok (placed (isLink_of_targetOf leads)),
        if_pos (isLink_of_targetOf leads), eventsFrom_placeLink_of_paired leads paired]
      rfl

/-! ### Warnings by object types -/

/-- The pointer that stores a field: a property or a stored link. -/
def storing? (type : ObjectType) (field : Field) : Option Pointer :=
  (type.props.get? field.name).or (type.links.get? field.name)

/-- The only id field that the stored link of a field names. -/
def heldId? (type : ObjectType) (field : Field) : Option Text :=
  if type.links.contains field.name then
    match field.relation?.bind Relation.fields with
    | some [id] => some id
    | _ => none
  else none

/-- What there is to warn of at a field, by the object type of its model. -/
def warningsAt (stack : Stack) (type : ObjectType) (model : Model) (field : Field) : List Event :=
  idWarning model field (heldId? type field) ++
    (storing? type field).toList.flatMap fun pointer =>
      dropWarning stack model field pointer.default

theorem mem_warningsAt_iff {type : ObjectType} {modelName fieldName shown named : Text} :
    .defaultDropped modelName fieldName shown named ∈ warningsAt stack type model field ↔
      model.name = modelName ∧ field.name = fieldName ∧
        ∃ pointer, storing? type field = some pointer ∧
          ∃ value, unexpressed? field pointer.default = some value ∧
            value.display (stack.room .droppedDefault) = .ok shown ∧
            field.type.display (stack.room .droppedDefault) = .ok named := by
  simp only [warningsAt, idWarning, List.mem_append, List.mem_map, List.mem_flatMap,
    Option.mem_toList, mem_dropWarning_iff]
  constructor
  · rintro (⟨_, _, ⟨⟩⟩ | ⟨pointer, stored, value, left, _, _, here, typed, ⟨⟩⟩)
    exact ⟨rfl, rfl, pointer, stored, value, left, here, typed⟩
  · rintro ⟨rfl, rfl, pointer, stored, value, left, here, typed⟩
    exact .inr ⟨pointer, stored, value, left, _, _, here, typed, rfl⟩

theorem heldId?_eq_none {type : ObjectType} (unstored : field.name ∉ type.links.keys) :
    heldId? type field = none := by
  rw [heldId?, if_neg (mt Table.contains_iff_mem_keys.mp unstored)]

theorem heldId?_of_linkId {type : ObjectType} {id : Option Text}
    (stored : field.name ∈ type.links.keys) (held : linkId model.name field = .ok id) :
    heldId? type field = id := by
  rw [heldId?, if_pos (Table.contains_iff_mem_keys.mpr stored)]
  unfold linkId at held
  split at held <;> cases held <;> simp [*]

variable {type : ObjectType} (indexed : model.IsIndexed)
  (outcome : (objectType stack models enums model).outcome = .ok type)
  (member : field ∈ model.fields.contents)

include indexed outcome member

/-- What is warned of when a field is placed can be read off the object type of its model. -/
theorem Lands.warnings_eq_warningsAt (lands : Lands stack models enums model field placement) :
    placement.warnings stack model field = warningsAt stack type model field := by
  have shared := partitions_of_objectType indexed outcome
  cases placement with
  | property pointer =>
      have stored := (mem_props_iff indexed outcome).mpr ⟨field, member, rfl, lands⟩
      have unlinked : field.name ∉ type.links.keys :=
        shared.props_disjoint_links (Table.mem_keys_of_mem_entries stored)
      simp [Placement.warnings, warningsAt, heldId?_eq_none unlinked, idWarning, storing?,
        Table.get?_eq_some_iff.mpr stored]
  | link pointer id =>
      have stored := (mem_links_iff indexed outcome).mpr ⟨field, member, rfl, id, lands⟩
      have linked := Table.mem_keys_of_mem_entries stored
      have unstored : field.name ∉ type.props.keys :=
        fun known => shared.props_disjoint_links known linked
      cases lands with
      | link leads alone held _ =>
          simp [Placement.warnings, warningsAt, heldId?_of_linkId linked held, storing?,
            Table.get?_eq_none_iff.mpr unstored, Table.get?_eq_some_iff.mpr stored]
  | backlink computed =>
      have computed := (mem_backlinks_iff indexed outcome).mpr ⟨field, member, rfl, lands⟩
      have known := Table.mem_keys_of_mem_entries computed
      have unstored : field.name ∉ type.props.keys :=
        fun stored => shared.props_disjoint_backlinks stored known
      have unlinked : field.name ∉ type.links.keys :=
        fun linked => shared.links_disjoint_backlinks linked known
      simp [Placement.warnings, warningsAt, heldId?_eq_none unlinked, idWarning, storing?,
        Table.get?_eq_none_iff.mpr unstored, Table.get?_eq_none_iff.mpr unlinked]

/-- What is stored of a field has the default of the field, and there is room to show that if it is
dropped. -/
theorem default_of_storing? {pointer : Pointer} (stored : storing? type field = some pointer) :
    pointer.default = defaultOf enums field ∧ FitsDefault stack enums field := by
  obtain ⟨placement, lands⟩ := lands_of_objectType indexed outcome member
  have own : ∀ other ∈ model.fields.contents, other.name = field.name → other = field :=
    fun other member' same => indexed.field_unique member' member same
  rcases Option.or_eq_some_iff.mp stored with found | ⟨_, found⟩
  · obtain ⟨other, member', same, lands'⟩ :=
      (mem_props_iff indexed outcome).mp (Table.get?_eq_some_iff.mp found)
    obtain rfl := own other member' same
    cases lands' with
    | property _ _ _ fits => exact ⟨rfl, fits⟩
  · obtain ⟨other, member', same, id, lands'⟩ :=
      (mem_links_iff indexed outcome).mp (Table.get?_eq_some_iff.mp found)
    obtain rfl := own other member' same
    cases lands' with
    | link _ _ _ fits => exact ⟨rfl, fits⟩

end

/-- What a conversion warns of, by the schema that comes out. -/
def warningsOf (stack : Stack) (models : Table Text Model) (result : Esdl.Schema) : List Event :=
  models.contents.flatMap fun model =>
    (result.types.get? model.name).toList.flatMap fun type =>
      model.fields.contents.flatMap (warningsAt stack type model)

section

variable {stack : Stack} {schema : Prisma.Schema} {models : Table Text Model}
  {result : Esdl.Schema} (indexed : schema.models stack = .ok models)
  (converted : (convert stack schema).outcome = .ok result)

include indexed converted

/-- What a conversion warns of can be read off the schema that comes out. -/
theorem eventsFrom_convert :
    (convert stack schema).eventsFrom .warning = warningsOf stack models result := by
  obtain ⟨types, told⟩ :=
    events_convert indexed ((converts_iff_of_models indexed).mp ⟨result, converted⟩)
  have fields : ∀ model ∈ models.contents, (model.fields.contents.flatMap fun field =>
        (placeField stack models schema.enums model field).eventsFrom .warning)
      = (result.types.get? model.name).toList.flatMap fun type =>
          model.fields.contents.flatMap (warningsAt stack type model) := by
    intro model declared
    obtain ⟨type, recorded, outcome⟩ := exists_type_of_convert indexed converted declared
    have unique := Schema.isIndexed_of_mem indexed declared
    rw [Table.get?_eq_some_iff.mpr recorded, Option.toList_some, List.flatMap_singleton]
    refine List.flatMap_congr fun field member => ?_
    obtain ⟨placement, lands⟩ := lands_of_objectType unique outcome member
    rw [lands.warnings_eq, lands.warnings_eq_warningsAt unique outcome member]
  rw [Run.eventsFrom, told, List.filter_cons_of_neg Bool.false_ne_true, List.filter_append,
    List.filter_eq_nil_iff.mpr, List.filter_append, List.filter_flatMap]
  · simp only [List.filter_flatMap]
    exact (List.append_nil _).trans (List.flatMap_congr fields)
  · intro event member
    obtain ⟨_, _, rfl⟩ := List.mem_map.mp member
    exact Bool.false_ne_true

/-- A default is warned of exactly if the pointer of its field does not have it. -/
theorem mem_events_convert_iff {model : Model} (declared : model ∈ models.contents)
    {type : ObjectType} (recorded : result.types.get? model.name = some type) {field : Field}
    (member : field ∈ model.fields.contents) {shown named : Text} :
    .defaultDropped model.name field.name shown named ∈ (convert stack schema).events ↔
      ∃ pointer, storing? type field = some pointer ∧
        ∃ value, unexpressed? field pointer.default = some value ∧
          value.display (stack.room .droppedDefault) = .ok shown ∧
          field.type.display (stack.room .droppedDefault) = .ok named := by
  have told : .defaultDropped model.name field.name shown named ∈ (convert stack schema).events ↔
      .defaultDropped model.name field.name shown named ∈ warningsOf stack models result := by
    rw [← eventsFrom_convert indexed converted, Run.eventsFrom, List.mem_filter]
    exact ⟨fun told => ⟨told, rfl⟩, And.left⟩
  rw [told, warningsOf, List.mem_flatMap]
  constructor
  · rintro ⟨other, declared', warned⟩
    obtain ⟨type', recorded', warned⟩ := List.mem_flatMap.mp warned
    obtain ⟨field', member', warned⟩ := List.mem_flatMap.mp warned
    obtain ⟨sameModel, sameField, left⟩ := mem_warningsAt_iff.mp warned
    obtain rfl : other = model :=
      List.inj_on_of_nodup_map (Schema.names_nodup indexed) declared' declared sameModel
    obtain rfl : type' = type := by simpa [recorded, eq_comm] using recorded'
    obtain rfl : field' = field :=
      (Schema.isIndexed_of_mem indexed declared').field_unique member' member sameField
    exact left
  · intro left
    refine ⟨model, declared, List.mem_flatMap.mpr ⟨type, by simp [recorded], ?_⟩⟩
    exact List.mem_flatMap.mpr ⟨field, member, mem_warningsAt_iff.mpr ⟨rfl, rfl, left⟩⟩

end

end PrismaEsdl.Conversion

namespace PrismaEsdl.Program

open Prisma Esdl Log
open Conversion (warningsOf storing?)

/-- What is warned of when a schema is converted is what there is to warn of at each field, in the
order of the models and of their fields: first the id field of its stored link, if that names one
that the model does not have, and then the default of its pointer, if it is not null and the pointer
has none. So a default of a stored field that is not in the converted schema is warned of, as it is
shown and with its type, and of one that is there nothing is said. -/
theorem warnings_account_for_fields {stack : Stack} {source : Prisma.Schema} {result : Esdl.Schema}
    (converted : (convert stack source).outcome = .ok result) :
    ∃ models, source.models stack = .ok models ∧
      (convert stack source).eventsFrom .warning = warningsOf stack models result ∧
      ∀ model ∈ models.contents, ∃ type, result.types.get? model.name = some type ∧
        ∀ field ∈ model.fields.contents, ∀ pointer, storing? type field = some pointer →
          ∀ value, field.default? = some value → value ≠ .null →
            (pointer.default = none → ∃ shown named,
              value.display (stack.room .droppedDefault) = .ok shown ∧
              field.type.display (stack.room .droppedDefault) = .ok named ∧
              .defaultDropped model.name field.name shown named ∈ (convert stack source).events) ∧
            (pointer.default ≠ none → ∀ shown named,
              .defaultDropped model.name field.name shown named ∉
                (convert stack source).events) := by
  have placed := Run.outcome_mapError_eq_ok_iff.mp converted
  obtain ⟨models, indexed⟩ := Conversion.exists_models_of_convert placed
  refine ⟨models, indexed, Conversion.eventsFrom_convert indexed placed, fun model declared => ?_⟩
  obtain ⟨type, recorded, outcome⟩ := Conversion.exists_type_of_convert indexed placed declared
  have found := Table.get?_eq_some_iff.mpr recorded
  have unique := Schema.isIndexed_of_mem indexed declared
  refine ⟨type, found, fun field member pointer stored value given notNull => ⟨?_, ?_⟩⟩
  · intro missing
    obtain ⟨same, fits⟩ := Conversion.default_of_storing? unique outcome member stored
    have left := Conversion.unexpressed?_eq_some_iff.mpr ⟨given, notNull, missing⟩
    rw [same] at left
    obtain ⟨fitsValue, fitsType⟩ := fits value left
    obtain ⟨shown, here⟩ := (value.gives_display_iff _).mpr fitsValue
    obtain ⟨named, typed⟩ := (field.type.gives_display_iff _).mpr fitsType
    refine ⟨shown, named, here, typed, ?_⟩
    exact (Conversion.mem_events_convert_iff indexed placed declared found member).mpr
      ⟨pointer, stored, value, same ▸ left, here, typed⟩
  · intro present shown named warned
    obtain ⟨other, stored', _, left, _⟩ :=
      (Conversion.mem_events_convert_iff indexed placed declared found member).mp warned
    obtain rfl : other = pointer := by simpa [stored, eq_comm] using stored'
    exact present (Conversion.unexpressed?_eq_some_iff.mp left).2.2

/-- Orders with a customer that no field holds. The default of the customer and the number of an
order have no expression, and that of the note is null. -/
def sales : Prisma.Schema := ⟨[
  .model "Order" [
    .field ⟨"customer", .text "Customer", false, false, [
      ⟨"relation", [.keyed "fields" (.list [.text "customerId"])]⟩,
      ⟨"default", [.text "nobody"]⟩]⟩,
    .field ⟨"placed", .text "DateTime", false, false, [⟨"default", [.call "now" []]⟩]⟩,
    .field ⟨"note", .text "String", false, true, [⟨"default", []⟩]⟩,
    .field ⟨"number", .text "Int", false, false, [⟨"default", [.call "autoincrement" []]⟩]⟩],
  .model "Customer" [
    .field ⟨"orders", .text "Order", true, false, [⟨"default", [.text "none"]⟩]⟩]]⟩

theorem sales_warnings :
    ∃ result, (convert .usual sales).outcome = .ok result ∧
      ∃ models, sales.models .usual = .ok models ∧
        (convert .usual sales).eventsFrom .warning = warningsOf .usual models result ∧
        (∀ model ∈ models.contents, ∃ type, result.types.get? model.name = some type ∧
          ∀ field ∈ model.fields.contents, ∀ pointer, storing? type field = some pointer →
            ∀ value, field.default? = some value → value ≠ .null →
              (pointer.default = none → ∃ shown named,
                value.display (Stack.usual.room .droppedDefault) = .ok shown ∧
                field.type.display (Stack.usual.room .droppedDefault) = .ok named ∧
                .defaultDropped model.name field.name shown named ∈
                  (convert .usual sales).events) ∧
              (pointer.default ≠ none → ∀ shown named,
                .defaultDropped model.name field.name shown named ∉
                  (convert .usual sales).events)) ∧
        warningsOf .usual models result = [
          .idUndeclared "Order" "customer" "customerId",
          .defaultDropped "Order" "customer" "nobody" "Customer",
          .defaultDropped "Order" "number" "autoincrement()" "Int"] := by
  have converted : (convert .usual sales).outcome = .ok _ := rfl
  obtain ⟨models, indexed, warned, accounted⟩ := warnings_account_for_fields converted
  obtain rfl := Except.ok.inj indexed
  exact ⟨_, converted, _, indexed, warned, accounted, rfl⟩

/-- The record of an id field that is not there names the relation and the field. -/
example : (Event.idUndeclared "Order" "customer" "customerId").record = ⟨.warning,
    "Relation 'Order.customer' names id field 'customerId' which is not declared on 'Order'"⟩ := by
  decide +kernel

end PrismaEsdl.Program
