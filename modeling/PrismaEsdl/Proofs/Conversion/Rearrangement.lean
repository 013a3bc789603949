import PrismaEsdl.Program
import PrismaEsdl.Proofs.Conversion.Pairing
import PrismaEsdl.Proofs.Conversion.Success
import PrismaEsdl.Proofs.Prisma.Rearrangement

/-!
Converting a schema in another order.

A conversion that succeeds looks at an order in one place only, the list of relations that lead back
along a link, and where the link lands there is at most one of them (`lands_of_typed`). So a field
lands in the same place in schemas that are alike up to the order of their fields
(`isPlaced_iff_of_alike`). One of them is converted exactly if the other one is, and then to the
same maps (`order_does_not_matter`).
-/

namespace PrismaEsdl.Esdl

/-- Two object types that are the same as maps, with the same link ids. -/
structure ObjectType.SameMaps (type other : ObjectType) : Prop where
  props : ∀ name, type.props.get? name = other.props.get? name
  links : ∀ name, type.links.get? name = other.links.get? name
  backlinks : ∀ name, type.backlinks.get? name = other.backlinks.get? name
  linkIds : ∀ id, id ∈ type.linkIds ↔ id ∈ other.linkIds

/-- Two schemas that are the same as maps: they have the same enums, and under each name an object
type that is the same as maps, or none. -/
structure Schema.SameMaps (schema other : Schema) : Prop where
  enums : ∀ name, schema.enums.get? name = other.enums.get? name
  types : ∀ name, Option.Rel ObjectType.SameMaps (schema.types.get? name) (other.types.get? name)

end PrismaEsdl.Esdl

namespace PrismaEsdl.Conversion

open Prisma Esdl Log

/-! ### Models in another order -/

section

variable {model model' : Model} (same : model.unordered = model'.unordered)

include same

/-- Each field has a field with the same outline. -/
theorem exists_field_of_unordered_eq {field : Field} (member : field ∈ model.fields.contents) :
    ∃ field' ∈ model'.fields.contents, field.outline = field'.outline := by
  obtain ⟨_, outlines⟩ := Model.unordered_eq_iff.mp same
  obtain ⟨field', member', outline⟩ :=
    List.mem_map.mp (outlines.mem_iff.mp (List.mem_map_of_mem member))
  exact ⟨field', member', outline.symm⟩

theorem sameNames_of_unordered_eq (indexed : model.IsIndexed) (indexed' : model'.IsIndexed) :
    SameNames model model' := by
  obtain ⟨owner, outlines⟩ := Model.unordered_eq_iff.mp same
  have names := outlines.map FieldOutline.name
  rw [List.map_map, List.map_map] at names
  refine ⟨owner, fun name => ?_⟩
  rw [Bool.eq_iff_iff, Table.contains_iff_mem_keys, Table.contains_iff_mem_keys,
    Table.keys_eq_names indexed, Table.keys_eq_names indexed']
  exact names.mem_iff

/-- The relations that lead back are the same, in some order. -/
theorem relationsTo_perm_of_unordered_eq (owner : Text) :
    ((model.relationsTo owner).map Field.name).Perm
      ((model'.relationsTo owner).map Field.name) := by
  obtain ⟨_, outlines⟩ := Model.unordered_eq_iff.mp same
  rw [← Model.relationsTo_outline, ← Model.relationsTo_outline]
  simp only [ModelOutline.relationsTo, Model.outline, Table.contents_mapContents]
  exact (outlines.filter _).map _

end

section

variable {stack : Stack} {schema other : Prisma.Schema} {models models' : Table Text Model}

/-- Around a field that lands somewhere, two schemas look alike. -/
theorem lookAlike_of_alike {model : Model} {field : Field} {placement : Placement} {type : Text}
    (indexed : schema.models stack = .ok models)
    (alike : Schema.AlikeIndexes models models' schema.enums other.enums)
    (lands : Lands stack models schema.enums model field placement)
    (typed : field.typeName? = some type) :
    LookAlike models models' schema.enums other.enums model.name type where
  counterpart := by
    have found := alike.models type
    unfold counterpart?
    cases found? : models.get? type with
    | none =>
        rw [found?, Option.map_none, eq_comm, Option.map_eq_none_iff] at found
        rw [found]
    | some target =>
        rw [found?, Option.map_some, eq_comm, Option.map_eq_some_iff] at found
        obtain ⟨target', found', same⟩ := found
        obtain ⟨declared, rfl⟩ := (Schema.get?_models_iff indexed).mp found?
        have back := relationsTo_perm_of_unordered_eq same model.name
        obtain ⟨sameName, _⟩ := Model.unordered_eq_iff.mp same
        rw [found', Option.map_some, Option.map_some, sameName]
        -- At most one relation leads back, so there is one order of them.
        rcases lands_of_typed indexed lands declared typed with ⟨alone, _⟩ | ⟨inverse, paired, _⟩
        · rw [alone, List.map_nil, List.perm_nil] at back
          rw [alone, back, List.map_nil]
        · rw [paired, List.map_cons, List.map_nil, List.perm_singleton] at back
          rw [paired, back, List.map_cons, List.map_nil]
  enumerated := by rw [← Table.isSome_get?, ← Table.isSome_get?, alike.enums]

variable (indexed : schema.models stack = .ok models) (indexed' : other.models stack = .ok models')
  (alike : Schema.AlikeIndexes models models' schema.enums other.enums)

include indexed indexed' alike

theorem exists_model_of_alike {model : Model} (declared : model ∈ models.contents) :
    ∃ model' ∈ models'.contents, model.unordered = model'.unordered := by
  have found := alike.models model.name
  rw [(Schema.get?_models_iff indexed).mpr ⟨declared, rfl⟩, Option.map_some, eq_comm,
    Option.map_eq_some_iff] at found
  obtain ⟨model', found', same⟩ := found
  exact ⟨model', ((Schema.get?_models_iff indexed').mp found').1, same.symm⟩

/-- A field lands where its counterpart does. -/
theorem lands_of_alike {model model' : Model} {field field' : Field} {placement : Placement}
    (declared : model ∈ models.contents) (declared' : model' ∈ models'.contents)
    (same : model.unordered = model'.unordered) (sameField : field.outline = field'.outline)
    (lands : Lands stack models schema.enums model field placement) :
    Lands stack models' other.enums model' field' placement := by
  have names := sameNames_of_unordered_eq same (Schema.isIndexed_of_mem indexed declared)
    (Schema.isIndexed_of_mem indexed' declared')
  have placed : placeField stack models schema.enums model field
      = placeField stack models' other.enums model' field' :=
    placeField_congr names sameField fun _ typed => lookAlike_of_alike indexed alike lands typed
  exact outcome_placeField_eq_ok_iff.mp (placed ▸ outcome_placeField_eq_ok_iff.mpr lands)

theorem allLand_of_alike (land : AllLand stack models schema.enums) :
    AllLand stack models' other.enums := by
  intro model' declared' field' member'
  obtain ⟨model, declared, same⟩ := exists_model_of_alike indexed' indexed alike.symm declared'
  obtain ⟨field, member, sameField⟩ := exists_field_of_unordered_eq same member'
  obtain ⟨placement, lands⟩ := land model declared field member
  exact ⟨placement, lands_of_alike indexed indexed' alike declared declared' same.symm
    sameField.symm lands⟩

end

/-! ### Object types -/

/-- A field of a model lands somewhere under a name. -/
def IsPlaced (stack : Stack) (models : Table Text Model) (enums : Table Text (List Text))
    (model : Model) (name : Text) (placement : Placement) : Prop :=
  ∃ field ∈ model.fields.contents,
    field.name = name ∧ Lands stack models enums model field placement

section

variable {stack : Stack} {schema other : Prisma.Schema} {models models' : Table Text Model}
  {model model' : Model} {name : Text} {placement : Placement}

theorem isPlaced_of_isPlaced (indexed : schema.models stack = .ok models)
    (indexed' : other.models stack = .ok models')
    (alike : Schema.AlikeIndexes models models' schema.enums other.enums)
    (declared : model ∈ models.contents) (declared' : model' ∈ models'.contents)
    (same : model.unordered = model'.unordered)
    (placed : IsPlaced stack models schema.enums model name placement) :
    IsPlaced stack models' other.enums model' name placement := by
  obtain ⟨field, member, rfl, lands⟩ := placed
  obtain ⟨field', member', sameField⟩ := exists_field_of_unordered_eq same member
  obtain ⟨sameName, _⟩ := Field.outline_eq_iff.mp sameField
  exact ⟨field', member', sameName.symm,
    lands_of_alike indexed indexed' alike declared declared' same sameField lands⟩

/-- In schemas that are alike, the fields of a model land alike. -/
theorem isPlaced_iff_of_alike (indexed : schema.models stack = .ok models)
    (indexed' : other.models stack = .ok models')
    (alike : Schema.AlikeIndexes models models' schema.enums other.enums)
    (declared : model ∈ models.contents) (declared' : model' ∈ models'.contents)
    (same : model.unordered = model'.unordered) :
    IsPlaced stack models schema.enums model name placement ↔
      IsPlaced stack models' other.enums model' name placement :=
  ⟨isPlaced_of_isPlaced indexed indexed' alike declared declared' same,
    isPlaced_of_isPlaced indexed' indexed alike.symm declared' declared same.symm⟩

end

section

variable {stack : Stack} {models models' : Table Text Model} {enums enums' : Table Text (List Text)}
  {model model' : Model} {type type' : ObjectType} (indexed : model.IsIndexed)
  (outcome : (objectType stack models enums model).outcome = .ok type)

include indexed outcome

theorem mem_links_iff_isPlaced {name : Text} {pointer : Pointer} :
    (name, pointer) ∈ type.links.entries ↔
      ∃ id, IsPlaced stack models enums model name (.link pointer id) := by
  rw [mem_links_iff indexed outcome]
  constructor
  · rintro ⟨field, member, named, id, lands⟩
    exact ⟨id, field, member, named, lands⟩
  · rintro ⟨id, field, member, named, lands⟩
    exact ⟨field, member, named, id, lands⟩

theorem mem_linkIds_iff_isPlaced {id : Text} :
    id ∈ type.linkIds ↔
      ∃ name pointer, IsPlaced stack models enums model name (.link pointer (some id)) := by
  rw [mem_linkIds_iff indexed outcome]
  constructor
  · rintro ⟨field, member, pointer, lands⟩
    exact ⟨field.name, pointer, field, member, rfl, lands⟩
  · rintro ⟨name, pointer, field, member, _, lands⟩
    exact ⟨field, member, pointer, lands⟩

/-- Models whose fields land alike have the same maps for their object types. -/
theorem sameMaps_of_isPlaced_iff (indexed' : model'.IsIndexed)
    (outcome' : (objectType stack models' enums' model').outcome = .ok type')
    (placed : ∀ name placement,
      IsPlaced stack models enums model name placement ↔
        IsPlaced stack models' enums' model' name placement) :
    type.SameMaps type' where
  props name := by
    apply Option.ext
    intro pointer
    rw [Table.get?_eq_some_iff, Table.get?_eq_some_iff, mem_props_iff indexed outcome,
      mem_props_iff indexed' outcome']
    exact placed name (.property pointer)
  links name := by
    apply Option.ext
    intro pointer
    rw [Table.get?_eq_some_iff, Table.get?_eq_some_iff, mem_links_iff_isPlaced indexed outcome,
      mem_links_iff_isPlaced indexed' outcome']
    exact exists_congr fun id => placed name (.link pointer id)
  backlinks name := by
    apply Option.ext
    intro computed
    rw [Table.get?_eq_some_iff, Table.get?_eq_some_iff, mem_backlinks_iff indexed outcome,
      mem_backlinks_iff indexed' outcome']
    exact placed name (.backlink computed)
  linkIds id := by
    rw [mem_linkIds_iff_isPlaced indexed outcome, mem_linkIds_iff_isPlaced indexed' outcome']
    exact exists_congr fun name => exists_congr fun pointer =>
      placed name (.link pointer (some id))

end

/-! ### Schemas -/

section

variable {stack : Stack} {schema other : Prisma.Schema} {models models' : Table Text Model}
  {result result' : Esdl.Schema}

/-- In the results of schemas that are alike, an object type has its counterpart. -/
theorem exists_type_of_alike (indexed : schema.models stack = .ok models)
    (indexed' : other.models stack = .ok models')
    (alike : Schema.AlikeIndexes models models' schema.enums other.enums)
    (converted : (convert stack schema).outcome = .ok result)
    (converted' : (convert stack other).outcome = .ok result') {name : Text} {type : ObjectType}
    (found : result.types.get? name = some type) :
    ∃ type', result'.types.get? name = some type' ∧ type.SameMaps type' := by
  obtain ⟨model, declared, rfl, outcome⟩ :=
    exists_model_of_convert indexed converted (Table.get?_eq_some_iff.mp found)
  obtain ⟨model', declared', same⟩ := exists_model_of_alike indexed indexed' alike declared
  obtain ⟨type', recorded, outcome'⟩ := exists_type_of_convert indexed' converted' declared'
  obtain ⟨sameName, _⟩ := Model.unordered_eq_iff.mp same
  refine ⟨type', ?_, ?_⟩
  · rw [sameName]
    exact Table.get?_eq_some_iff.mpr recorded
  · exact sameMaps_of_isPlaced_iff (Schema.isIndexed_of_mem indexed declared) outcome
      (Schema.isIndexed_of_mem indexed' declared') outcome'
      fun _ _ => isPlaced_iff_of_alike indexed indexed' alike declared declared' same

/-- Schemas that are alike are converted to the same maps. -/
theorem sameMaps_of_alike (indexed : schema.models stack = .ok models)
    (indexed' : other.models stack = .ok models')
    (alike : Schema.AlikeIndexes models models' schema.enums other.enums)
    (converted : (convert stack schema).outcome = .ok result)
    (converted' : (convert stack other).outcome = .ok result') : result.SameMaps result' where
  enums name := by
    rw [(types_of_convert indexed converted).1, (types_of_convert indexed' converted').1]
    exact alike.enums name
  types name := by
    cases found : result.types.get? name with
    | some type =>
        obtain ⟨type', found', same⟩ :=
          exists_type_of_alike indexed indexed' alike converted converted' found
        rw [found']
        exact .some same
    | none =>
        cases found' : result'.types.get? name with
        | none => exact .none
        | some type' =>
            obtain ⟨type, known, _⟩ :=
              exists_type_of_alike indexed' indexed alike.symm converted' converted found'
            rw [found] at known
            cases known

/-- A schema with distinct names is converted exactly if it is in another order. -/
theorem converts_iff_of_rearranges (distinct : schema.HasDistinctNames)
    (rearranges : schema.Rearranges other) :
    (∃ result, (convert stack schema).outcome = .ok result) ↔
      ∃ result, (convert stack other).outcome = .ok result := by
  have fits : schema.Fits stack ↔ other.Fits stack := Schema.fits_iff_of_rearranges rearranges
  rw [← Schema.gives_models_iff, ← Schema.gives_models_iff] at fits
  rw [converts_iff, converts_iff]
  constructor
  · rintro ⟨models, indexed, land⟩
    obtain ⟨models', indexed'⟩ := fits.mp ⟨models, indexed⟩
    have alike := Schema.alikeIndexes_of_rearranges rearranges distinct indexed indexed'
    exact ⟨models', indexed', allLand_of_alike indexed indexed' alike land⟩
  · rintro ⟨models', indexed', land⟩
    obtain ⟨models, indexed⟩ := fits.mpr ⟨models', indexed'⟩
    have alike := Schema.alikeIndexes_of_rearranges rearranges distinct indexed indexed'
    exact ⟨models, indexed, allLand_of_alike indexed' indexed alike.symm land⟩

end

end PrismaEsdl.Conversion

namespace PrismaEsdl.Program

open Prisma
open Conversion (converts_iff_of_rearranges exists_models_of_convert sameMaps_of_alike)

/-- The order of declarations does not matter. A schema with distinct names is converted exactly if
it is in another order of its declarations, their properties and the attributes of these, by itself
or within the program; and then it is converted to the same maps. -/
theorem order_does_not_matter {stack : Stack} {schema other : Prisma.Schema}
    (distinct : schema.HasDistinctNames) (rearranges : schema.Rearranges other) :
    ((∃ result, (Conversion.convert stack schema).outcome = .ok result) ↔
        ∃ result, (Conversion.convert stack other).outcome = .ok result) ∧
      ((∃ result, (convert stack schema).outcome = .ok result) ↔
        ∃ result, (convert stack other).outcome = .ok result) ∧
      ∀ result result', (Conversion.convert stack schema).outcome = .ok result →
        (Conversion.convert stack other).outcome = .ok result' → result.SameMaps result' := by
  have converts := @converts_iff_of_rearranges stack schema other distinct rearranges
  refine ⟨converts, ?_, ?_⟩
  · simpa only [convert, Log.Run.outcome_mapError_eq_ok_iff] using converts
  · intro result result' converted converted'
    obtain ⟨models, indexed⟩ := exists_models_of_convert converted
    obtain ⟨models', indexed'⟩ := exists_models_of_convert converted'
    have alike := Schema.alikeIndexes_of_rearranges rearranges distinct indexed indexed'
    exact sameMaps_of_alike indexed indexed' alike converted converted'

/-- The relation of a post to its one author. -/
def authorship : AttributeDeclaration := ⟨"relation", [.keyed "fields" (.list [.text "authorId"])]⟩

/-- Users with a post each, and posts. -/
def usersFirst : Prisma.Schema := ⟨[
  .model "User" [.field ⟨"post", .text "Post", false, true, []⟩],
  .model "Post" [
    .field ⟨"author", .text "User", false, false, [authorship, ⟨"unique", []⟩]⟩,
    .field ⟨"authorId", .text "String", false, false, []⟩]]⟩

/-- The same with everything in another order. -/
def postsFirst : Prisma.Schema := ⟨[
  .model "Post" [
    .field ⟨"authorId", .text "String", false, false, []⟩,
    .field ⟨"author", .text "User", false, false, [⟨"unique", []⟩, authorship]⟩],
  .model "User" [.field ⟨"post", .text "Post", false, true, []⟩]]⟩

theorem postsFirst_is_usersFirst :
    usersFirst.HasDistinctNames ∧ usersFirst.Rearranges postsFirst ∧
      ∃ result result', (convert .usual usersFirst).outcome = .ok result ∧
        (convert .usual postsFirst).outcome = .ok result' ∧ result.SameMaps result' := by
  have distinct : usersFirst.HasDistinctNames := by
    refine ⟨by decide, by decide, ?_⟩
    intro declared member
    rcases List.mem_cons.mp member with rfl | member
    · exact ⟨by decide, by decide⟩
    · rcases List.mem_singleton.mp member with rfl
      exact ⟨by decide, by decide⟩
  have user : Rearranged Property.Rearranges
      [.field ⟨"post", .text "Post", false, true, []⟩]
      [.field ⟨"post", .text "Post", false, true, []⟩] :=
    ⟨_, .refl _, .cons (.field ⟨rfl, rfl, rfl, rfl, .refl _⟩) .nil⟩
  have post : Rearranged Property.Rearranges
      [.field ⟨"author", .text "User", false, false, [authorship, ⟨"unique", []⟩]⟩,
        .field ⟨"authorId", .text "String", false, false, []⟩]
      [.field ⟨"authorId", .text "String", false, false, []⟩,
        .field ⟨"author", .text "User", false, false, [⟨"unique", []⟩, authorship]⟩] :=
    ⟨_, .swap _ _ _, .cons (.field ⟨rfl, rfl, rfl, rfl, .refl _⟩)
      (.cons (.field ⟨rfl, rfl, rfl, rfl, .swap _ _ _⟩) .nil)⟩
  have rearranges : usersFirst.Rearranges postsFirst :=
    ⟨_, .swap _ _ _, .cons (.model "Post" post) (.cons (.model "User" user) .nil)⟩
  obtain ⟨_, converts, same⟩ := @order_does_not_matter .usual _ _ distinct rearranges
  obtain ⟨result, converted⟩ : ∃ result, (convert .usual usersFirst).outcome = .ok result :=
    ⟨_, rfl⟩
  obtain ⟨result', converted'⟩ := converts.mp ⟨result, converted⟩
  exact ⟨distinct, rearranges, result, result', converted, converted',
    same result result' (Log.Run.outcome_mapError_eq_ok_iff.mp converted)
      (Log.Run.outcome_mapError_eq_ok_iff.mp converted')⟩

end PrismaEsdl.Program
