import PrismaEsdl.Proofs.Conversion.Collecting

/-!
The two sides of a relation in a converted schema.

Which side a field of one model is of depends only on the relations of its target that lead back
(`lands_of_typed`), so all fields of one model with the same target are treated alike
(`opposite_relations_decide`). A backlink follows the one relation of its target that leads back,
and that relation is a stored link exactly when no relation of the first model leads to the target
and no link of the target stands for it as its id field (`backlink_resolves_iff`). Where both
sides are annotated, each follows the other and neither is stored
(`not_all_backlinks_resolve`).
-/

namespace PrismaEsdl.Conversion

open Prisma Esdl Log

theorem mem_storedPointers {type : ObjectType} {name : Text} {pointer : Pointer} :
    (name, pointer) ∈ type.storedPointers ↔
      ((name, pointer) ∈ type.props.entries ∨ (name, pointer) ∈ type.links.entries) ∧
        name ∉ type.linkIds := by
  simp [ObjectType.storedPointers, or_and_right]

theorem linkId_eq_ok_some_iff {name id : Text} {field : Field} :
    linkId name field = .ok (some id) ↔ field.relation?.bind Relation.fields = some [id] := by
  unfold linkId
  cases field.relation?.bind Relation.fields with
  | none => simp
  | some ids =>
      cases ids with
      | nil => simp
      | cons first rest => cases rest <;> simp

section

variable {stack : Stack} {schema : Prisma.Schema} {models : Table Text Model}
  (indexed : schema.models stack = .ok models) {model target : Model} {field : Field}
  {placement : Placement}

include indexed

theorem targetOf_eq_ok_of_lands
    (lands : Lands stack models schema.enums model field placement)
    (declared : target ∈ models.contents) (typed : field.typeName? = some target.name) :
    targetOf stack models model.name field = .ok target := by
  have found := (Schema.get?_models_iff indexed).mpr ⟨declared, rfl⟩
  have toward : ∀ {other : Model}, targetOf stack models model.name field = .ok other →
      targetOf stack models model.name field = .ok target := by
    intro other leads
    obtain ⟨type, typed', _, found'⟩ := targetOf_eq_ok_iff.mp leads
    have same : type = target.name := Option.some.inj (typed'.symm.trans typed)
    subst same
    rw [leads, Option.some.inj (found'.symm.trans found)]
  cases lands with
  | property unlinked _ _ _ =>
      have linked : isLink models field = true := isLink_eq_true_iff.mpr
        ⟨_, typed, Table.mem_keys_of_mem_entries (Table.get?_eq_some_iff.mp found)⟩
      rw [unlinked] at linked
      cases linked
  | link leads _ _ _ => exact toward leads
  | backlink leads _ => exact toward leads

/-- The side that a field of a declared type is of: a link if no relation of its target leads back,
a backlink through the one that does. -/
theorem lands_of_typed (lands : Lands stack models schema.enums model field placement)
    (declared : target ∈ models.contents) (typed : field.typeName? = some target.name) :
    (target.relationsTo model.name = [] ∧ ∃ id, linkId model.name field = .ok id ∧
        placement = .link (pointerOf .link target.name field (defaultOf schema.enums field)) id) ∨
      ∃ inverse, target.relationsTo model.name = [inverse] ∧
        placement = .backlink ⟨Backlink.through inverse.name target.name, field.array⟩ := by
  have leads := targetOf_eq_ok_of_lands indexed lands declared typed
  rcases lands.of_targetOf leads with ⟨alone, id, held, _, rfl⟩ | paired
  · exact .inl ⟨alone, id, held, rfl⟩
  · exact .inr paired

end

/-- A stored link of an object type that leads to a target and is shown. -/
def IsStoredLink (type : ObjectType) (name target : Text) : Prop :=
  ∃ pointer, (name, pointer) ∈ type.links.entries ∧ (name, pointer) ∈ type.storedPointers ∧
    pointer.type = target

/-- An id field of a model that one of its links stands for: no relation leads back along the link,
and its own relation is held by this id field alone. -/
def StandsFor (stack : Stack) (models : Table Text Model) (model : Model) (id : Text) : Prop :=
  ∃ field ∈ model.fields.contents, ∃ target, targetOf stack models model.name field = .ok target ∧
    target.relationsTo model.name = [] ∧ field.relation?.bind Relation.fields = some [id]

section

variable {stack : Stack} {models : Table Text Model} {enums : Table Text (List Text)}
  {model : Model}
  {type : ObjectType} (indexed : model.IsIndexed)
  (outcome : (objectType stack models enums model).outcome = .ok type)

include indexed outcome

/-- The link ids are the id fields that some link stands for. -/
theorem mem_linkIds_iff_standsFor {id : Text} :
    id ∈ type.linkIds ↔ StandsFor stack models model id := by
  rw [mem_linkIds_iff indexed outcome]
  constructor
  · rintro ⟨field, member, pointer, lands⟩
    cases lands with
    | link leads alone held _ =>
        exact ⟨field, member, _, leads, alone, linkId_eq_ok_some_iff.mp held⟩
  · rintro ⟨field, member, target, leads, alone, held⟩
    obtain ⟨placement, lands⟩ := lands_of_objectType indexed outcome member
    rcases lands.of_targetOf leads with ⟨_, id', held', _, rfl⟩ | ⟨inverse, paired, _⟩
    · rw [linkId_eq_ok_some_iff.mpr held] at held'
      cases held'
      exact ⟨field, member, _, lands⟩
    · rw [alone] at paired
      cases paired

/-- A field that lands as a backlink is not stored. -/
theorem not_mem_keys_of_lands_backlink {field : Field} (member : field ∈ model.fields.contents)
    {computed : Backlink} (lands : Lands stack models enums model field (.backlink computed)) :
    field.name ∉ type.props.keys ∧ field.name ∉ type.links.keys := by
  constructor
  · intro known
    obtain ⟨pointer, recorded⟩ := Table.exists_content_of_mem_keys known
    obtain ⟨other, member', same, lands'⟩ := (mem_props_iff indexed outcome).mp recorded
    cases indexed.field_unique member' member same
    cases lands.unique lands'
  · intro known
    obtain ⟨pointer, recorded⟩ := Table.exists_content_of_mem_keys known
    obtain ⟨other, member', same, _, lands'⟩ := (mem_links_iff indexed outcome).mp recorded
    cases indexed.field_unique member' member same
    cases lands.unique lands'

end

/-- Whether a field of a declared type is stored or computed, by the relations of its target that
lead back and by the links of its own model. -/
theorem isStoredLink_iff_of_typed {stack : Stack} {schema : Prisma.Schema}
    {models : Table Text Model} (indexed : schema.models stack = .ok models)
    {model target : Model} {type : ObjectType} {field : Field} (unique : model.IsIndexed)
    (outcome : (objectType stack models schema.enums model).outcome = .ok type)
    (declared : target ∈ models.contents) (member : field ∈ model.fields.contents)
    (typed : field.typeName? = some target.name) :
    (IsStoredLink type field.name target.name ↔
      target.relationsTo model.name = [] ∧ ¬ StandsFor stack models model field.name) ∧
    (field.name ∈ type.backlinks.keys ↔ target.relationsTo model.name ≠ []) := by
  obtain ⟨placement, lands⟩ := lands_of_objectType unique outcome member
  rw [← mem_linkIds_iff_standsFor unique outcome]
  rcases lands_of_typed indexed lands declared typed with
    ⟨alone, id, _, rfl⟩ | ⟨inverse, paired, rfl⟩
  · have linked := (mem_links_iff unique outcome).mpr ⟨field, member, rfl, id, lands⟩
    refine ⟨⟨?_, ?_⟩, ⟨?_, fun related => absurd alone related⟩⟩
    · rintro ⟨_, _, stored, _⟩
      exact ⟨alone, (mem_storedPointers.mp stored).2⟩
    · rintro ⟨_, shown⟩
      exact ⟨_, linked, mem_storedPointers.mpr ⟨Or.inr linked, shown⟩, rfl⟩
    · intro known
      obtain ⟨computed, recorded⟩ := Table.exists_content_of_mem_keys known
      obtain ⟨other, member', same, lands'⟩ := (mem_backlinks_iff unique outcome).mp recorded
      cases unique.field_unique member' member same
      cases lands.unique lands'
  · have unstored := (not_mem_keys_of_lands_backlink unique outcome member lands).2
    refine ⟨⟨?_, ?_⟩, ⟨fun _ => by simp [paired], fun _ => ?_⟩⟩
    · rintro ⟨_, linked, _⟩
      exact absurd (Table.mem_keys_of_mem_entries linked) unstored
    · rintro ⟨alone, _⟩
      rw [alone] at paired
      cases paired
    · exact Table.mem_keys_of_mem_entries
        ((mem_backlinks_iff unique outcome).mpr ⟨field, member, rfl, lands⟩)

/-! ### Fields with the same target -/

/-- In a converted schema the relations of a target that lead back to a model decide, for all
fields of that model with this target at once, on which side they are: without one all of them are
stored links, with one all of them are backlinks through it, and with several there are no such
fields. -/
theorem opposite_relations_decide {stack : Stack} {schema : Prisma.Schema}
    {result : Esdl.Schema} (converted : (convert stack schema).outcome = .ok result) :
    ∃ models, schema.models stack = .ok models ∧ ∀ model ∈ models.contents,
      ∀ target ∈ models.contents, ∃ type, result.types.get? model.name = some type ∧
      (target.relationsTo model.name = [] →
        ∀ field ∈ model.fields.contents, field.typeName? = some target.name →
          ∃ pointer, type.links.get? field.name = some pointer ∧ pointer.type = target.name) ∧
      (∀ inverse, target.relationsTo model.name = [inverse] →
        ∀ field ∈ model.fields.contents, field.typeName? = some target.name →
          type.backlinks.get? field.name
              = some ⟨Backlink.through inverse.name target.name, field.array⟩ ∧
            field.name ∉ type.props.keys ∧ field.name ∉ type.links.keys) ∧
      (2 ≤ (target.relationsTo model.name).length →
        ∀ field ∈ model.fields.contents, field.typeName? ≠ some target.name) := by
  obtain ⟨models, indexed⟩ := exists_models_of_convert converted
  refine ⟨models, indexed, fun model declared target declared' => ?_⟩
  obtain ⟨type, recorded, outcome⟩ := exists_type_of_convert indexed converted declared
  have unique := Schema.isIndexed_of_mem indexed declared
  refine ⟨type, Table.get?_eq_some_iff.mpr recorded, ?_, ?_, ?_⟩
  · intro alone field member typed
    obtain ⟨placement, lands⟩ := lands_of_objectType unique outcome member
    rcases lands_of_typed indexed lands declared' typed with ⟨_, id, _, rfl⟩ | ⟨inverse, paired, _⟩
    · refine ⟨pointerOf .link target.name field (defaultOf schema.enums field),
        Table.get?_eq_some_iff.mpr ?_, rfl⟩
      exact (mem_links_iff unique outcome).mpr ⟨field, member, rfl, id, lands⟩
    · rw [alone] at paired
      cases paired
  · intro inverse paired field member typed
    obtain ⟨placement, lands⟩ := lands_of_objectType unique outcome member
    rcases lands_of_typed indexed lands declared' typed with ⟨alone, _⟩ | ⟨other, paired', rfl⟩
    · rw [alone] at paired
      cases paired
    · rw [paired] at paired'
      cases paired'
      refine ⟨Table.get?_eq_some_iff.mpr ?_, not_mem_keys_of_lands_backlink unique outcome member
        lands⟩
      exact (mem_backlinks_iff unique outcome).mpr ⟨field, member, rfl, lands⟩
  · intro several field member typed
    obtain ⟨placement, lands⟩ := lands_of_objectType unique outcome member
    rcases lands_of_typed indexed lands declared' typed with ⟨alone, _⟩ | ⟨inverse, paired, _⟩
    · simp [alone] at several
    · simp [paired] at several

/-- The fields of a model of users: their posts. -/
def userProperties (relations : List AttributeDeclaration) : List Property :=
  [.field ⟨"posts", .text "Post", true, false, relations⟩]

/-- The fields of a model of posts: an author, held by an id field. -/
def postProperties (relations : List Value) : List Property := [
  .field ⟨"author", .text "User", false, false,
    [⟨"relation", relations ++ [.keyed "fields" (.list [.text "authorId"])]⟩]⟩,
  .field ⟨"authorId", .text "String", false, false, []⟩]

/-- Users and posts, with the relation annotated at the author only. -/
def annotatedOnce : Prisma.Schema :=
  ⟨[.model "User" (userProperties []), .model "Post" (postProperties [])]⟩

/-- Users and posts, with the same relation annotated at both of its sides. -/
def annotatedTwice : Prisma.Schema := ⟨[
  .model "User" (userProperties [⟨"relation", [.text "Authored"]⟩]),
  .model "Post" (postProperties [.text "Authored"])]⟩

theorem posts_decided_by_author :
    ∃ result models, ((convert .usual annotatedOnce).outcome = .ok result ∧
        annotatedOnce.models .usual = .ok models) ∧
      ∃ user ∈ models.contents, ∃ post ∈ models.contents,
        (post.relationsTo user.name).map Field.name = [("author" : Text)] ∧
        ∃ type, result.types.get? user.name = some type ∧
          type.backlinks.get? "posts" = some ⟨".<author[is Post]", true⟩ ∧
          (("posts" : Text) ∉ type.props.keys ∧ ("posts" : Text) ∉ type.links.keys) := by
  obtain ⟨result, converted⟩ : ∃ result, (convert .usual annotatedOnce).outcome = .ok result :=
    ⟨_, rfl⟩
  obtain ⟨models, indexed, decided⟩ := opposite_relations_decide converted
  obtain rfl := Except.ok.inj indexed
  obtain ⟨type, found, _, one, _⟩ := decided _ (.head _) _ (.tail _ (.head _))
  exact ⟨result, _, ⟨converted, indexed⟩, _, .head _, _, .tail _ (.head _), rfl, type, found,
    one _ rfl _ (.head _) rfl⟩

/-! ### Backlinks and what they follow -/

/-- What a backlink of an object type follows: a field of the model of that name leads to a target,
and one relation of the target, the inverse, leads back. -/
structure Follows (models : Table Text Model) (owner name : Text) (backlink : Backlink)
    (target : Model) (inverse : Field) : Prop where
  declared : target ∈ models.contents
  leads : ∃ model field, models.get? owner = some model ∧
    model.fields.get? name = some field ∧ field.typeName? = some target.name
  paired : target.relationsTo owner = [inverse]
  expression : backlink.expression = Backlink.through inverse.name target.name

/-- A backlink follows the one relation of its target that leads back. That relation is a stored
link exactly when no relation of the first model leads to the target and no link of the target
stands for it; it is a backlink itself exactly when some relation of the first model leads to the
target. -/
theorem backlink_resolves_iff {stack : Stack} {schema : Prisma.Schema} {result : Esdl.Schema}
    (converted : (convert stack schema).outcome = .ok result) {owner : Text} {type : ObjectType}
    (declared : (owner, type) ∈ result.types.entries) {name : Text} {backlink : Backlink}
    (computed : (name, backlink) ∈ type.backlinks.entries) :
    ∃ models, schema.models stack = .ok models ∧
      ∃ model target inverse targetType, models.get? owner = some model ∧
        Follows models owner name backlink target inverse ∧
        (target.name, targetType) ∈ result.types.entries ∧
        (IsStoredLink targetType inverse.name owner ↔
          model.relationsTo target.name = [] ∧ ¬ StandsFor stack models target inverse.name) ∧
        (inverse.name ∈ targetType.backlinks.keys ↔ model.relationsTo target.name ≠ []) := by
  obtain ⟨models, indexed⟩ := exists_models_of_convert converted
  obtain ⟨model, member, rfl, outcome⟩ := exists_model_of_convert indexed converted declared
  have unique := Schema.isIndexed_of_mem indexed member
  have known := (Schema.get?_models_iff indexed).mpr ⟨member, rfl⟩
  obtain ⟨field, recorded, rfl, lands⟩ := (mem_backlinks_iff unique outcome).mp computed
  cases lands with
  | @backlink target inverse leads paired =>
      obtain ⟨_, typed, _, found⟩ := targetOf_eq_ok_iff.mp leads
      obtain ⟨member', rfl⟩ := (Schema.get?_models_iff indexed).mp found
      obtain ⟨targetType, declared', outcome'⟩ := exists_type_of_convert indexed converted member'
      have back : inverse ∈ target.relationsTo model.name := by rw [paired]; exact .head _
      obtain ⟨recorded', _, typed'⟩ := Model.mem_relationsTo.mp back
      have follows : Follows models model.name field.name
          ⟨Backlink.through inverse.name target.name, field.array⟩ target inverse :=
        { declared := member'
          leads := ⟨model, field, known,
            Table.get?_eq_some_iff.mpr (unique.mem_entries recorded), typed⟩
          paired := paired
          expression := rfl }
      exact ⟨models, indexed, model, target, inverse, targetType, known, follows, declared',
        isStoredLink_iff_of_typed indexed (Schema.isIndexed_of_mem indexed member') outcome' member
          recorded' typed'⟩

theorem posts_follow_author :
    ∃ result type backlink, (convert .usual annotatedOnce).outcome = .ok result ∧
      ((("User" : Text), type) ∈ result.types.entries ∧
        (("posts" : Text), backlink) ∈ type.backlinks.entries) ∧
      ∃ models, annotatedOnce.models .usual = .ok models ∧
        ∃ model target inverse targetType, models.get? "User" = some model ∧
          Follows models "User" "posts" backlink target inverse ∧
          (target.name, targetType) ∈ result.types.entries ∧
          (IsStoredLink targetType inverse.name "User" ↔
            model.relationsTo target.name = [] ∧ ¬ StandsFor .usual models target inverse.name) ∧
          (inverse.name ∈ targetType.backlinks.keys ↔ model.relationsTo target.name ≠ []) := by
  have converted : (convert .usual annotatedOnce).outcome = .ok _ := rfl
  exact ⟨_, _, _, converted, ⟨.head _, .head _⟩,
    backlink_resolves_iff converted (.head _) (.head _)⟩

/-- Backlinks do not resolve in general: where both sides of a relation are annotated, each of them
is a backlink through the other. -/
theorem not_all_backlinks_resolve :
    ¬ ∀ (schema : Prisma.Schema) (result : Esdl.Schema),
      (convert .usual schema).outcome = .ok result →
      ∀ owner type, (owner, type) ∈ result.types.entries →
      ∀ name backlink, (name, backlink) ∈ type.backlinks.entries →
      ∀ inverse target, backlink.expression = Backlink.through inverse target →
        ∃ targetType, (target, targetType) ∈ result.types.entries ∧
          IsStoredLink targetType inverse owner := by
  intro resolves
  obtain ⟨targetType, member, _, linked, _⟩ :=
    resolves annotatedTwice _ rfl "User" _ (.head _) "posts" _ (.head _) "author" "Post" rfl
  cases member with
  | tail _ later =>
      cases later with
      | head => cases linked
      | tail _ none => cases none

end PrismaEsdl.Conversion
