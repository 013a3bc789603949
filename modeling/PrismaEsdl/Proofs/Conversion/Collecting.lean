import PrismaEsdl.Proofs.Conversion.Landing

/-!
Object types as collections of placed fields.

Placing a field under a new name adds one entry to one of the three tables of an object type
(`Collected.into`), so the object type of a model is the collection of where its fields landed
(`collected_of_objectType`): each table lists the fields that landed in it (`mem_props_iff`,
`mem_links_iff`, `mem_backlinks_iff`), and the link ids are the id fields of the links
(`mem_linkIds_iff`). A converted schema has the object type of each declared model under its name,
in the order of the models, and no other (`types_of_convert`).
-/

namespace PrismaEsdl.Conversion

open Prisma Esdl Log

/-! ### Placed fields -/

namespace Placement

def property? : Placement → Option Pointer
  | property pointer => some pointer
  | link _ _ | backlink _ => none

def link? : Placement → Option Pointer
  | link pointer _ => some pointer
  | property _ | backlink _ => none

def backlink? : Placement → Option Backlink
  | backlink computed => some computed
  | property _ | link _ _ => none

/-- The id field that a link stands for. -/
def id? : Placement → Option Text
  | link _ id => id
  | property _ | backlink _ => none

variable {placement : Placement}

theorem property?_eq_some_iff {pointer : Pointer} :
    placement.property? = some pointer ↔ placement = .property pointer := by
  cases placement <;> simp [property?]

theorem link?_eq_some_iff {pointer : Pointer} :
    placement.link? = some pointer ↔ ∃ id, placement = .link pointer id := by
  cases placement <;> simp [link?]

theorem backlink?_eq_some_iff {computed : Backlink} :
    placement.backlink? = some computed ↔ placement = .backlink computed := by
  cases placement <;> simp [backlink?]

theorem id?_eq_some_iff {id : Text} :
    placement.id? = some id ↔ ∃ pointer, placement = .link pointer (some id) := by
  cases placement <;> simp [id?]

end Placement

/-- The entries that placed fields make in one of the tables of an object type. -/
def entriesOf {α : Type} (view : Placement → Option α) (placed : List (Field × Placement)) :
    List (Text × α) :=
  placed.filterMap fun pair => (view pair.2).map (pair.1.name, ·)

theorem entriesOf_concat {α : Type} (view : Placement → Option α)
    (placed : List (Field × Placement)) (field : Field) (placement : Placement) :
    entriesOf view (placed ++ [(field, placement)])
      = entriesOf view placed ++ ((view placement).map (field.name, ·)).toList := by
  cases seen : view placement with
  | none => simp [entriesOf, seen]
  | some content => simp [entriesOf, seen]

theorem mem_entriesOf {α : Type} {view : Placement → Option α}
    {placed : List (Field × Placement)} {name : Text} {content : α} :
    (name, content) ∈ entriesOf view placed ↔
      ∃ pair ∈ placed, pair.1.name = name ∧ view pair.2 = some content := by
  simp only [entriesOf, List.mem_filterMap, Option.map_eq_some_iff, Prod.mk.injEq]
  constructor
  · rintro ⟨pair, member, _, seen, rfl, rfl⟩
    exact ⟨pair, member, rfl, seen⟩
  · rintro ⟨pair, member, rfl, seen⟩
    exact ⟨pair, member, content, seen, rfl, rfl⟩

/-- An object type that holds some placed fields, in their order, and nothing else. -/
structure Collected (type : ObjectType) (placed : List (Field × Placement)) : Prop where
  props : type.props.entries = entriesOf Placement.property? placed
  links : type.links.entries = entriesOf Placement.link? placed
  backlinks : type.backlinks.entries = entriesOf Placement.backlink? placed
  linkIds : ∀ id, id ∈ type.linkIds ↔ ∃ pair ∈ placed, pair.2.id? = some id

namespace Collected

variable {type : ObjectType} {placed : List (Field × Placement)}

theorem empty : Collected {} [] :=
  ⟨rfl, rfl, rfl, fun id => by simp⟩

/-- A name under which no field was placed is in none of the tables. -/
theorem fresh_of_entries {α : Type} {table : Table Text α} {view : Placement → Option α}
    (listed : table.entries = entriesOf view placed) {name : Text}
    (fresh : name ∉ placed.map fun pair => pair.1.name) : name ∉ table.keys := by
  intro known
  obtain ⟨content, member⟩ := Table.exists_content_of_mem_keys known
  rw [listed, mem_entriesOf] at member
  obtain ⟨pair, recorded, rfl, _⟩ := member
  exact fresh (List.mem_map.mpr ⟨pair, recorded, rfl⟩)

/-- Placing one more field under a new name adds it at the end. -/
theorem into (collected : Collected type placed) {field : Field}
    (fresh : field.name ∉ placed.map fun pair => pair.1.name) (placement : Placement) :
    Collected (placement.into type field.name) (placed ++ [(field, placement)]) := by
  cases placement with
  | property pointer =>
      refine ⟨?_, ?_, ?_, ?_⟩
      · rw [entriesOf_concat, ← collected.props]
        exact Table.entries_insert_of_fresh (fresh_of_entries collected.props fresh) pointer
      · rw [entriesOf_concat, ← collected.links]
        exact (List.append_nil _).symm
      · rw [entriesOf_concat, ← collected.backlinks]
        exact (List.append_nil _).symm
      · intro id
        simp [Placement.into, collected.linkIds, Placement.id?]
  | link pointer held =>
      refine ⟨?_, ?_, ?_, ?_⟩
      · rw [entriesOf_concat, ← collected.props]
        exact (List.append_nil _).symm
      · rw [entriesOf_concat, ← collected.links]
        exact Table.entries_insert_of_fresh (fresh_of_entries collected.links fresh) pointer
      · rw [entriesOf_concat, ← collected.backlinks]
        exact (List.append_nil _).symm
      · intro id
        have before := collected.linkIds id
        simp only [Placement.into, List.mem_append, List.mem_filter, Option.mem_toList,
          List.contains_eq_mem, Bool.not_eq_true', decide_eq_false_iff_not, List.mem_singleton]
        constructor
        · rintro (known | ⟨here, _⟩)
          · obtain ⟨pair, member, seen⟩ := before.mp known
            exact ⟨pair, Or.inl member, seen⟩
          · exact ⟨_, Or.inr rfl, here⟩
        · rintro ⟨pair, member | rfl, seen⟩
          · exact Or.inl (before.mpr ⟨pair, member, seen⟩)
          · by_cases known : id ∈ type.linkIds
            · exact Or.inl known
            · exact Or.inr ⟨seen, known⟩
  | backlink computed =>
      refine ⟨?_, ?_, ?_, ?_⟩
      · rw [entriesOf_concat, ← collected.props]
        exact (List.append_nil _).symm
      · rw [entriesOf_concat, ← collected.links]
        exact (List.append_nil _).symm
      · rw [entriesOf_concat, ← collected.backlinks]
        exact Table.entries_insert_of_fresh (fresh_of_entries collected.backlinks fresh) computed
      · intro id
        simp [Placement.into, collected.linkIds, Placement.id?]

end Collected

section

variable {stack : Stack} {models : Table Text Model} {enums : Table Text (List Text)}
  {model : Model}

/-- Placing a list of fields collects where each of them lands. -/
theorem collected_of_placeFields {fields : List Field} :
    ∀ {type result : ObjectType} {placed : List (Field × Placement)}, Collected type placed →
      (placed.map (fun pair => pair.1.name) ++ fields.map Field.name).Nodup →
      (placeFields stack models enums model fields type).outcome = .ok result →
      ∃ more, more.map Prod.fst = fields ∧
        (∀ pair ∈ more, Lands stack models enums model pair.1 pair.2) ∧
        Collected result (placed ++ more) := by
  induction fields with
  | nil =>
      intro type result placed collected _ outcome
      cases outcome
      exact ⟨[], rfl, by simp, by simpa using collected⟩
  | cons field rest ih =>
      intro type result placed collected distinct outcome
      obtain ⟨placement, placedHere, later⟩ := Run.outcome_bind_eq_ok_iff.mp outcome
      have fresh : field.name ∉ placed.map fun pair => pair.1.name := by
        intro known
        exact (List.nodup_append.mp distinct).2.2 _ known _ List.mem_cons_self rfl
      have distinctRest : ((placed ++ [(field, placement)]).map (fun pair => pair.1.name)
          ++ rest.map Field.name).Nodup := by
        simpa using distinct
      obtain ⟨more, fieldsRest, landRest, collectedRest⟩ :=
        ih (collected.into fresh placement) distinctRest later
      refine ⟨(field, placement) :: more, by rw [List.map_cons, fieldsRest], ?_, ?_⟩
      · intro pair member
        rcases List.mem_cons.mp member with rfl | member
        · exact outcome_placeField_eq_ok_iff.mp placedHere
        · exact landRest pair member
      · simpa using collectedRest

/-- What a collection shows of its placed fields is what the fields of the model land as. -/
theorem exists_placed_iff {placed : List (Field × Placement)}
    (fields : placed.map Prod.fst = model.fields.contents)
    (land : ∀ pair ∈ placed, Lands stack models enums model pair.1 pair.2)
    (shown : Field → Placement → Prop) :
    (∃ pair ∈ placed, shown pair.1 pair.2) ↔
      ∃ field ∈ model.fields.contents, ∃ placement, Lands stack models enums model field placement ∧
        shown field placement := by
  constructor
  · rintro ⟨pair, recorded, seen⟩
    refine ⟨pair.1, ?_, pair.2, land pair recorded, seen⟩
    rw [← fields]
    exact List.mem_map.mpr ⟨pair, recorded, rfl⟩
  · rintro ⟨field, member, placement, lands, seen⟩
    rw [← fields] at member
    obtain ⟨pair, recorded, rfl⟩ := List.mem_map.mp member
    refine ⟨pair, recorded, ?_⟩
    rw [(land pair recorded).unique lands]
    exact seen

/-! ### The object type of a model -/

section

variable {type : ObjectType} (indexed : model.IsIndexed)
  (outcome : (objectType stack models enums model).outcome = .ok type)

include indexed outcome

/-- The object type of a model is the collection of where its fields land. -/
theorem collected_of_objectType :
    ∃ placed, placed.map Prod.fst = model.fields.contents ∧
      (∀ pair ∈ placed, Lands stack models enums model pair.1 pair.2) ∧ Collected type placed := by
  have distinct : (([] : List (Field × Placement)).map (fun pair => pair.1.name)
      ++ model.fields.contents.map Field.name).Nodup := by
    simpa using indexed.fields_nodup
  obtain ⟨placed, fields, land, collected⟩ :=
    collected_of_placeFields .empty distinct outcome
  exact ⟨placed, fields, land, by simpa using collected⟩

/-- Every field of a model whose object type is made lands somewhere. -/
theorem lands_of_objectType {field : Field} (member : field ∈ model.fields.contents) :
    ∃ placement, Lands stack models enums model field placement := by
  obtain ⟨placed, fields, land, _⟩ := collected_of_objectType indexed outcome
  rw [← fields] at member
  obtain ⟨pair, recorded, rfl⟩ := List.mem_map.mp member
  exact ⟨pair.2, land pair recorded⟩

/-- The properties are the fields that land as one. -/
theorem mem_props_iff {name : Text} {pointer : Pointer} :
    (name, pointer) ∈ type.props.entries ↔
      ∃ field ∈ model.fields.contents, field.name = name ∧
        Lands stack models enums model field (.property pointer) := by
  obtain ⟨placed, fields, land, collected⟩ := collected_of_objectType indexed outcome
  rw [collected.props, mem_entriesOf, exists_placed_iff fields land
    fun field placement => field.name = name ∧ placement.property? = some pointer]
  constructor
  · rintro ⟨field, member, placement, lands, named, seen⟩
    rw [Placement.property?_eq_some_iff] at seen
    exact ⟨field, member, named, seen ▸ lands⟩
  · rintro ⟨field, member, named, lands⟩
    exact ⟨field, member, _, lands, named, rfl⟩

/-- The stored links are the fields that land as one. -/
theorem mem_links_iff {name : Text} {pointer : Pointer} :
    (name, pointer) ∈ type.links.entries ↔
      ∃ field ∈ model.fields.contents, field.name = name ∧
        ∃ id, Lands stack models enums model field (.link pointer id) := by
  obtain ⟨placed, fields, land, collected⟩ := collected_of_objectType indexed outcome
  rw [collected.links, mem_entriesOf, exists_placed_iff fields land
    fun field placement => field.name = name ∧ placement.link? = some pointer]
  constructor
  · rintro ⟨field, member, placement, lands, named, seen⟩
    obtain ⟨id, rfl⟩ := Placement.link?_eq_some_iff.mp seen
    exact ⟨field, member, named, id, lands⟩
  · rintro ⟨field, member, named, id, lands⟩
    exact ⟨field, member, _, lands, named, rfl⟩

/-- The backlinks are the fields that land as one. -/
theorem mem_backlinks_iff {name : Text} {computed : Backlink} :
    (name, computed) ∈ type.backlinks.entries ↔
      ∃ field ∈ model.fields.contents, field.name = name ∧
        Lands stack models enums model field (.backlink computed) := by
  obtain ⟨placed, fields, land, collected⟩ := collected_of_objectType indexed outcome
  rw [collected.backlinks, mem_entriesOf, exists_placed_iff fields land
    fun field placement => field.name = name ∧ placement.backlink? = some computed]
  constructor
  · rintro ⟨field, member, placement, lands, named, seen⟩
    rw [Placement.backlink?_eq_some_iff] at seen
    exact ⟨field, member, named, seen ▸ lands⟩
  · rintro ⟨field, member, named, lands⟩
    exact ⟨field, member, _, lands, named, rfl⟩

/-- What stands in one of the tables is made of a field that lands. -/
theorem exists_lands_of_mem_keys {name : Text}
    (known : name ∈ type.props.keys ∨ name ∈ type.links.keys ∨ name ∈ type.backlinks.keys) :
    ∃ field ∈ model.fields.contents, field.name = name ∧
      ∃ placement, Lands stack models enums model field placement := by
  rcases known with known | known | known
  · obtain ⟨_, recorded⟩ := Table.exists_content_of_mem_keys known
    obtain ⟨field, member, named, lands⟩ := (mem_props_iff indexed outcome).mp recorded
    exact ⟨field, member, named, _, lands⟩
  · obtain ⟨_, recorded⟩ := Table.exists_content_of_mem_keys known
    obtain ⟨field, member, named, _, lands⟩ := (mem_links_iff indexed outcome).mp recorded
    exact ⟨field, member, named, _, lands⟩
  · obtain ⟨_, recorded⟩ := Table.exists_content_of_mem_keys known
    obtain ⟨field, member, named, lands⟩ := (mem_backlinks_iff indexed outcome).mp recorded
    exact ⟨field, member, named, _, lands⟩

/-- The link ids are the id fields that the stored links stand for. -/
theorem mem_linkIds_iff {id : Text} :
    id ∈ type.linkIds ↔
      ∃ field ∈ model.fields.contents, ∃ pointer,
        Lands stack models enums model field (.link pointer (some id)) := by
  obtain ⟨placed, fields, land, collected⟩ := collected_of_objectType indexed outcome
  rw [collected.linkIds, exists_placed_iff fields land
    fun _ placement => placement.id? = some id]
  constructor
  · rintro ⟨field, member, placement, lands, seen⟩
    obtain ⟨pointer, rfl⟩ := Placement.id?_eq_some_iff.mp seen
    exact ⟨field, member, pointer, lands⟩
  · rintro ⟨field, member, pointer, lands⟩
    exact ⟨field, member, _, lands, rfl⟩

end

/-! ### The object types of a schema -/

/-- Making object types records each of them under the name of its model, one after the other. -/
theorem types_of_objectTypes {declared : List Model} :
    ∀ {types result : Table Text ObjectType},
      (types.keys ++ declared.map Model.name).Nodup →
      (objectTypes stack models enums declared types).outcome = .ok result →
      ∃ made : List (Model × ObjectType), made.map Prod.fst = declared ∧
        (∀ pair ∈ made, (objectType stack models enums pair.1).outcome = .ok pair.2) ∧
        result.entries = types.entries ++ made.map fun pair => (pair.1.name, pair.2) := by
  induction declared with
  | nil =>
      intro types result _ outcome
      cases outcome
      exact ⟨[], rfl, by simp, by simp⟩
  | cons model rest ih =>
      intro types result distinct outcome
      obtain ⟨type, here, later⟩ := Run.outcome_bind_eq_ok_iff.mp outcome
      have fresh : model.name ∉ types.keys := by
        intro known
        exact (List.nodup_append.mp distinct).2.2 _ known _ List.mem_cons_self rfl
      have distinctRest : ((types.insert model.name type).keys ++ rest.map Model.name).Nodup := by
        rw [Table.keys_insert, if_neg fresh]
        simpa using distinct
      obtain ⟨made, modelsRest, outcomes, entries⟩ := ih distinctRest later
      refine ⟨(model, type) :: made, by rw [List.map_cons, modelsRest], ?_, ?_⟩
      · intro pair member
        rcases List.mem_cons.mp member with rfl | member
        · exact here
        · exact outcomes pair member
      · rw [entries, Table.entries_insert_of_fresh fresh]
        simp

end

section

variable {stack : Stack} {schema : Prisma.Schema} {models : Table Text Model}
  {result : Esdl.Schema}

/-- Without an index nothing is converted. -/
theorem convert_of_excess {excess : Excess} (exceeds : schema.models stack = .error excess) :
    convert stack schema = .stop (.excessive excess) := by
  unfold convert indexModels
  rw [exceeds]
  rfl

/-- A converted schema has an index. -/
theorem exists_models_of_convert (converted : (convert stack schema).outcome = .ok result) :
    ∃ models, schema.models stack = .ok models := by
  cases indexed : schema.models stack with
  | error excess =>
      rw [convert_of_excess indexed] at converted
      cases converted
  | ok models => exact ⟨models, rfl⟩

/-- What is left of a conversion once there is an index. -/
theorem convert_of_models (indexed : schema.models stack = .ok models) :
    convert stack schema = do
      .tell (.modelsIndexed models.keys)
      .tellAll (schema.enumDeclarations.map fun declared => .enumRead declared.1 declared.2)
      let types ← objectTypes stack models schema.enums models.contents ∅
      .tell (.schemaConverted schema.enums.size types.size)
      return { enums := schema.enums, types } := by
  unfold convert indexModels indexEnums
  simp only [indexed, Except.mapError, Run.ofExcept_ok, bind_assoc, pure_bind]

variable (indexed : schema.models stack = .ok models)
  (converted : (convert stack schema).outcome = .ok result)

include indexed converted

/-- A converted schema has the enums of its source, and the object type of each declared model
under its name, in the order of the models. -/
theorem types_of_convert :
    result.enums = schema.enums ∧
      ∃ made : List (Model × ObjectType), made.map Prod.fst = models.contents ∧
        (∀ pair ∈ made,
          (objectType stack models schema.enums pair.1).outcome = .ok pair.2) ∧
        result.types.entries = made.map fun pair => (pair.1.name, pair.2) := by
  rw [convert_of_models indexed] at converted
  simp only [Run.outcome_bind_eq_ok_iff, Run.outcome_tell, Run.outcome_tellAll, Run.outcome_pure,
    Except.ok.injEq] at converted
  obtain ⟨_, _, _, _, types, outcome, _, _, rfl⟩ := converted
  have distinct : ((∅ : Table Text ObjectType).keys
      ++ models.contents.map Model.name).Nodup :=
    Schema.names_nodup indexed
  exact ⟨rfl, types_of_objectTypes distinct outcome⟩

/-- The object types of a converted schema are named as the models, and stand in their order. -/
theorem keys_types_of_convert : result.types.keys = models.keys := by
  obtain ⟨_, made, modelsMade, _, entries⟩ := types_of_convert indexed converted
  rw [Table.keys_eq_names fun _ _ member => (Schema.mem_models_entries indexed member).1,
    ← modelsMade, Table.keys, entries, List.map_map, List.map_map]
  rfl

/-- The object type of a declared model stands under its name. -/
theorem exists_type_of_convert {model : Model} (declared : model ∈ models.contents) :
    ∃ type, (model.name, type) ∈ result.types.entries ∧
      (objectType stack models schema.enums model).outcome = .ok type := by
  obtain ⟨_, made, modelsMade, outcomes, entries⟩ := types_of_convert indexed converted
  rw [← modelsMade] at declared
  obtain ⟨pair, recorded, rfl⟩ := List.mem_map.mp declared
  refine ⟨pair.2, ?_, outcomes pair recorded⟩
  rw [entries]
  exact List.mem_map.mpr ⟨pair, recorded, rfl⟩

/-- Every object type of a converted schema is that of the declared model of its name. -/
theorem exists_model_of_convert {name : Text} {type : ObjectType}
    (member : (name, type) ∈ result.types.entries) :
    ∃ model ∈ models.contents, model.name = name ∧
      (objectType stack models schema.enums model).outcome = .ok type := by
  obtain ⟨_, made, modelsMade, outcomes, entries⟩ := types_of_convert indexed converted
  rw [entries] at member
  obtain ⟨pair, recorded, same⟩ := List.mem_map.mp member
  obtain ⟨rfl, rfl⟩ := Prod.mk.inj same
  refine ⟨pair.1, ?_, rfl, outcomes pair recorded⟩
  rw [← modelsMade]
  exact List.mem_map.mpr ⟨pair, recorded, rfl⟩

end

end PrismaEsdl.Conversion
