import PrismaEsdl.Proofs.Conversion.Suppression

/-!
What becomes of unique fields.

A unique field that stays among the stored pointers is exclusive there, and is written with a
constraint (`constraintLine_mem_lines`). Where a link stands for it, only the link is left to carry
the constraint, and a link is exclusive only if it is marked as unique itself. So the uniqueness of
an id field is kept exactly if all links that it holds are unique (`uniqueness_kept_iff`); it is
lost where a relation is made one to one by its id field (`not_all_uniqueness_kept`).
-/

namespace PrismaEsdl.Esdl

/-- An exclusive pointer is written with a constraint. -/
theorem Pointer.constraintLine_mem_lines {pointer : Pointer} (exclusive : pointer.exclusive = true)
    (name : Text) : constraintLine ∈ pointer.lines name := by
  have block : pointer.hasBlock = true := by simp [hasBlock, exclusive]
  simp [lines, block, blockLines, exclusive]

end PrismaEsdl.Esdl

namespace PrismaEsdl.Conversion

open Prisma Esdl Log

/-- A link of a model that an id field holds: no relation leads back along the link, and its own
relation names this id field alone. -/
def IsHeldBy (stack : Stack) (models : Table Text Model) (model : Model) (link : Field)
    (id : Text) : Prop :=
  ∃ target, targetOf stack models model.name link = .ok target ∧
    target.relationsTo model.name = [] ∧ link.relation?.bind Relation.fields = some [id]

/-- An object type keeps the uniqueness of a field of its model: the field is a stored pointer that
is exclusive, or it is hidden and every stored link whose relation names it alone is exclusive. -/
def KeepsUnique (type : ObjectType) (model : Model) (name : Text) : Prop :=
  (∃ pointer, (name, pointer) ∈ type.storedPointers ∧ pointer.exclusive = true) ∨
    name ∈ type.linkIds ∧ ∀ link ∈ model.fields.contents,
      link.relation?.bind Relation.fields = some [name] →
        ∀ pointer, type.links.get? link.name = some pointer → pointer.exclusive = true

section

variable {stack : Stack} {models : Table Text Model} {enums : Table Text (List Text)}
  {model : Model} {field : Field} {type : ObjectType}

theorem standsFor_iff {id : Text} :
    StandsFor stack models model id ↔
      ∃ link ∈ model.fields.contents, IsHeldBy stack models model link id :=
  Iff.rfl

variable (indexed : model.IsIndexed)
  (outcome : (objectType stack models enums model).outcome = .ok type)
  (member : field ∈ model.fields.contents)

include indexed outcome member

/-- A link that is held by an id field is stored, and exclusive if it is unique itself. -/
theorem get?_links_of_isHeldBy {id : Text} (held : IsHeldBy stack models model field id) :
    ∃ pointer, type.links.get? field.name = some pointer ∧ pointer.exclusive = field.isUnique := by
  obtain ⟨target, leads, alone, named⟩ := held
  obtain ⟨placement, lands⟩ := lands_of_objectType indexed outcome member
  rcases lands.of_targetOf leads with ⟨_, id, _, _, rfl⟩ | ⟨inverse, paired, _⟩
  · have recorded := (mem_links_iff indexed outcome).mpr ⟨field, member, rfl, id, lands⟩
    exact ⟨_, Table.get?_eq_some_iff.mpr recorded, rfl⟩
  · rw [alone] at paired
    cases paired

/-- A stored link whose relation names one id field alone is held by it. -/
theorem isHeldBy_of_get?_links {id : Text} {pointer : Pointer}
    (stored : type.links.get? field.name = some pointer)
    (named : field.relation?.bind Relation.fields = some [id]) :
    IsHeldBy stack models model field id ∧ pointer.exclusive = field.isUnique := by
  obtain ⟨other, member', same, _, lands⟩ :=
    (mem_links_iff indexed outcome).mp (Table.get?_eq_some_iff.mp stored)
  obtain rfl := indexed.field_unique member' member same
  cases lands with
  | link leads alone _ _ => exact ⟨⟨_, leads, alone, named⟩, rfl⟩

/-- A field that is no link is among the stored pointers unless a link stands for it. -/
theorem exists_stored_of_not_link (scalar : isLink models field = false)
    (shown : ¬ StandsFor stack models model field.name) :
    ∃ pointer, (field.name, pointer) ∈ type.storedPointers ∧
      pointer.exclusive = field.isUnique := by
  obtain ⟨placement, lands⟩ := lands_of_objectType indexed outcome member
  cases lands with
  | property unlinked unrelated typed fits =>
      have recorded := (mem_props_iff indexed outcome).mpr
        ⟨field, member, rfl, .property unlinked unrelated typed fits⟩
      rw [← mem_linkIds_iff_standsFor indexed outcome] at shown
      exact ⟨_, mem_storedPointers.mpr ⟨.inl recorded, shown⟩, rfl⟩
  | link leads _ _ _ =>
      rw [isLink_of_targetOf leads] at scalar
      cases scalar
  | backlink leads _ =>
      rw [isLink_of_targetOf leads] at scalar
      cases scalar

/-- The uniqueness of a field that is no link is kept exactly if all links that it holds are
unique. -/
theorem keepsUnique_iff (scalar : isLink models field = false) (unique : field.isUnique = true) :
    KeepsUnique type model field.name ↔
      ∀ link ∈ model.fields.contents, IsHeldBy stack models model link field.name →
        link.isUnique = true := by
  constructor
  · rintro (⟨pointer, stored, _⟩ | ⟨_, exclusive⟩) link member' held
    · have shown := (mem_storedPointers.mp stored).2
      rw [mem_linkIds_iff_standsFor indexed outcome] at shown
      exact absurd (standsFor_iff.mpr ⟨link, member', held⟩) shown
    · obtain ⟨pointer, stored, same⟩ := get?_links_of_isHeldBy indexed outcome member' held
      obtain ⟨_, _, _, named⟩ := held
      rw [← same]
      exact exclusive link member' named pointer stored
  · intro unique'
    by_cases hidden : StandsFor stack models model field.name
    · refine .inr ⟨(mem_linkIds_iff_standsFor indexed outcome).mpr hidden, ?_⟩
      intro link member' named pointer stored
      obtain ⟨held, same⟩ := isHeldBy_of_get?_links indexed outcome member' stored named
      rw [same]
      exact unique' link member' held
    · obtain ⟨pointer, stored, same⟩ :=
        exists_stored_of_not_link indexed outcome member scalar hidden
      exact .inl ⟨pointer, stored, same.trans unique⟩

end

/-- What becomes of a unique field of a converted schema that is no link. Its uniqueness is kept
exactly if all links that it holds are unique themselves. In particular it is kept if no link stands
for the field: then the field is stored, and every rendering has it with its constraint. -/
theorem uniqueness_kept_iff {stack : Stack} {schema : Prisma.Schema} {result : Esdl.Schema}
    (converted : (convert stack schema).outcome = .ok result) :
    ∃ models, schema.models stack = .ok models ∧ ∀ model ∈ models.contents,
      ∃ type, result.types.get? model.name = some type ∧
        ∀ field ∈ model.fields.contents, isLink models field = false → field.isUnique = true →
          (KeepsUnique type model field.name ↔
            ∀ link ∈ model.fields.contents, IsHeldBy stack models model link field.name →
              link.isUnique = true) ∧
          (¬ StandsFor stack models model field.name →
            ∃ pointer, (field.name, pointer) ∈ type.storedPointers ∧ pointer.exclusive = true ∧
              Pointer.constraintLine ∈ pointer.lines field.name ∧
              ∀ moduleName, pointer.lines field.name <:+: result.lines moduleName) := by
  obtain ⟨models, indexed⟩ := exists_models_of_convert converted
  refine ⟨models, indexed, fun model declared => ?_⟩
  obtain ⟨type, recorded, outcome⟩ := exists_type_of_convert indexed converted declared
  have distinct := Schema.isIndexed_of_mem indexed declared
  refine ⟨type, Table.get?_eq_some_iff.mpr recorded, fun field member scalar unique => ?_⟩
  refine ⟨keepsUnique_iff distinct outcome member scalar unique, fun shown => ?_⟩
  obtain ⟨pointer, stored, same⟩ := exists_stored_of_not_link distinct outcome member scalar shown
  have exclusive := same.trans unique
  exact ⟨pointer, stored, exclusive, Pointer.constraintLine_mem_lines exclusive _,
    Schema.lines_infix_of_stored recorded stored⟩

/-- The id field of a profile: it says which user the profile belongs to, and no other does. -/
def userId : FieldDeclaration := ⟨"userId", .text "String", false, false, [⟨"unique", []⟩]⟩

/-- The fields of a profile: a user, held by the id field. -/
def profileProperties : List Property := [
  .field ⟨"user", .text "User", false, false,
    [⟨"relation", [.keyed "fields" (.list [.text "userId"])]⟩]⟩,
  .field userId]

/-- Users with at most one profile each. -/
def profiles : Prisma.Schema := ⟨[
  .model "User" [
    .field ⟨"email", .text "String", false, false, [⟨"unique", []⟩]⟩,
    .field ⟨"profile", .text "Profile", false, true, []⟩],
  .model "Profile" profileProperties]⟩

theorem profiles_uniqueness_kept_iff :
    ∃ result models model field, (convert .usual profiles).outcome = .ok result ∧
      profiles.models .usual = .ok models ∧
      (model ∈ models.contents ∧ field ∈ model.fields.contents ∧ isLink models field = false ∧
        field.isUnique = true) ∧
      ∃ type, result.types.get? model.name = some type ∧
        (KeepsUnique type model field.name ↔
          ∀ link ∈ model.fields.contents, IsHeldBy .usual models model link field.name →
            link.isUnique = true) ∧
        (¬ StandsFor .usual models model field.name →
          ∃ pointer, (field.name, pointer) ∈ type.storedPointers ∧ pointer.exclusive = true ∧
            Pointer.constraintLine ∈ pointer.lines field.name ∧
            ∀ moduleName, pointer.lines field.name <:+: result.lines moduleName) := by
  have converted : (convert .usual profiles).outcome = .ok _ := rfl
  obtain ⟨models, indexed, kept⟩ := uniqueness_kept_iff converted
  obtain rfl := Except.ok.inj indexed
  obtain ⟨type, found, kept⟩ := kept _ (.tail _ (.head _))
  exact ⟨_, _, _, _, converted, indexed, ⟨.tail _ (.head _), .tail _ (.head _), rfl, rfl⟩,
    type, found, kept _ (.tail _ (.head _)) rfl rfl⟩

/-- Uniqueness is not kept in general: the id field of a profile is hidden by the link to its user,
and this link is not exclusive. -/
theorem not_all_uniqueness_kept :
    ¬ ∀ (schema : Prisma.Schema) (result : Esdl.Schema) (models : Table Text Model),
      (convert .usual schema).outcome = .ok result → schema.models .usual = .ok models →
      ∀ model ∈ models.contents, ∀ type, result.types.get? model.name = some type →
        ∀ field ∈ model.fields.contents, isLink models field = false →
          field.isUnique = true → KeepsUnique type model field.name := by
  intro kept
  rcases kept profiles _ _ rfl rfl _ (.tail _ (.head _)) _ rfl _ (.tail _ (.head _)) rfl rfl with
    ⟨_, stored, _⟩ | ⟨_, exclusive⟩
  · cases stored with
    | tail _ none => cases none
  · cases exclusive _ (.head _) rfl _ rfl

end PrismaEsdl.Conversion
