import PrismaEsdl.Proofs.Conversion.Pairing
import PrismaEsdl.Proofs.Esdl.Rendering

/-!
What the link ids of an object type hide.

A link id is meant to hide the scalar field that a stored link is held by. The names of id fields
are taken from the relations as they are written, so they may also be names of links and of
backlinks: these are hidden as well. `linkIds_spare_links_iff` says that no link is named by a link
id exactly if no link stands for another one, and that a stored link is left out of the stored
pointers exactly if some link stands for it; one that is not left out is rendered.
-/

namespace PrismaEsdl.Esdl

/-- A block stands as it is among blocks with a separator between them. -/
theorem infix_intercalate_of_mem {α : Type} (separator : List α) {block : List α}
    {blocks : List (List α)} (member : block ∈ blocks) :
    block <:+: List.intercalate separator blocks := by
  refine List.infix_of_mem_flatten ?_
  induction blocks with
  | nil => cases member
  | cons first rest ih =>
      cases rest with
      | nil => exact member
      | cons second others =>
          rcases List.mem_cons.mp member with rfl | later
          · exact .head _
          · exact .tail _ (.tail _ (ih later))

/-- The lines of a stored pointer are lines of every rendering of its schema. -/
theorem Schema.lines_infix_of_stored {schema : Schema} {name pointerName : Text}
    {type : ObjectType} {pointer : Pointer} (declared : (name, type) ∈ schema.types.entries)
    (stored : (pointerName, pointer) ∈ type.storedPointers) (moduleName : Text) :
    pointer.lines pointerName <:+: schema.lines moduleName := by
  have inType : pointer.lines pointerName <:+: type.lines name := by
    obtain ⟨before, after, split⟩ := List.append_of_mem stored
    refine ⟨typeHead name :: before.flatMap fun entry => entry.2.lines entry.1,
      after.flatMap (fun entry => entry.2.lines entry.1)
        ++ type.backlinks.entries.map (fun entry => entry.2.line entry.1) ++ [typeEnd], ?_⟩
    simp [ObjectType.lines, split]
  have inBlocks : type.lines name ∈ schema.blocks :=
    List.mem_append_right _ (List.mem_map.mpr ⟨_, declared, rfl⟩)
  rw [lines_eq]
  refine inType.trans ((infix_intercalate_of_mem [[]] inBlocks).trans ?_)
  exact ⟨[moduleHead moduleName], [moduleEnd], rfl⟩

end PrismaEsdl.Esdl

namespace PrismaEsdl.Conversion

open Prisma Esdl Log

section

variable {stack : Stack} {models : Table Text Model} {enums : Table Text (List Text)}
  {model : Model}
  {field : Field} {placement : Placement}

/-- A field lands as a property exactly if it is no link. -/
theorem Lands.isLink_iff (lands : Lands stack models enums model field placement) :
    isLink models field = true ↔ placement.property? = none := by
  cases lands with
  | property unlinked _ _ _ => simp [unlinked, Placement.property?]
  | link leads _ _ _ => simp [isLink_of_targetOf leads, Placement.property?]
  | backlink leads _ => simp [isLink_of_targetOf leads, Placement.property?]

variable {type : ObjectType} (indexed : model.IsIndexed)
  (outcome : (objectType stack models enums model).outcome = .ok type)

include indexed outcome

/-- The links and backlinks of an object type are named by the links among the fields. -/
theorem mem_links_or_backlinks_iff {name : Text} :
    name ∈ type.links.keys ∨ name ∈ type.backlinks.keys ↔
      ∃ field ∈ model.fields.contents, field.name = name ∧ isLink models field = true := by
  constructor
  · rintro (known | known)
    · obtain ⟨pointer, recorded⟩ := Table.exists_content_of_mem_keys known
      obtain ⟨field, member, named, id, lands⟩ := (mem_links_iff indexed outcome).mp recorded
      exact ⟨field, member, named, lands.isLink_iff.mpr rfl⟩
    · obtain ⟨computed, recorded⟩ := Table.exists_content_of_mem_keys known
      obtain ⟨field, member, named, lands⟩ := (mem_backlinks_iff indexed outcome).mp recorded
      exact ⟨field, member, named, lands.isLink_iff.mpr rfl⟩
  · rintro ⟨field, member, rfl, linked⟩
    obtain ⟨placement, lands⟩ := lands_of_objectType indexed outcome member
    cases placement with
    | property pointer => cases lands.isLink_iff.mp linked
    | link pointer id =>
        have recorded := (mem_links_iff indexed outcome).mpr ⟨field, member, rfl, id, lands⟩
        exact .inl (Table.mem_keys_of_mem_entries recorded)
    | backlink computed =>
        have recorded := (mem_backlinks_iff indexed outcome).mpr ⟨field, member, rfl, lands⟩
        exact .inr (Table.mem_keys_of_mem_entries recorded)

/-- No link and no backlink is named by a link id exactly if no link stands for another one. -/
theorem linkIds_spare_iff :
    (∀ id ∈ type.linkIds, id ∉ type.links.keys ∧ id ∉ type.backlinks.keys) ↔
      ∀ field ∈ model.fields.contents, isLink models field = true →
        ¬ StandsFor stack models model field.name := by
  constructor
  · intro spared field member linked held
    have named := (mem_links_or_backlinks_iff indexed outcome).mpr ⟨field, member, rfl, linked⟩
    have unnamed := spared _ ((mem_linkIds_iff_standsFor indexed outcome).mpr held)
    exact named.elim unnamed.1 unnamed.2
  · intro unheld id hidden
    have held := (mem_linkIds_iff_standsFor indexed outcome).mp hidden
    rw [← not_or, mem_links_or_backlinks_iff indexed outcome]
    rintro ⟨field, member, rfl, linked⟩
    exact unheld field member linked held

/-- A stored link is left out of the stored pointers exactly if some link stands for it. -/
theorem mem_storedPointers_of_link_iff {name : Text} {pointer : Pointer}
    (recorded : (name, pointer) ∈ type.links.entries) :
    (name, pointer) ∈ type.storedPointers ↔ ¬ StandsFor stack models model name := by
  rw [mem_storedPointers, mem_linkIds_iff_standsFor indexed outcome]
  exact ⟨And.right, fun unheld => ⟨.inr recorded, unheld⟩⟩

end

/-- What the link ids hide in a converted schema. They name no link and no backlink exactly if no
link of the model stands for another one; a stored link is among the stored pointers exactly if no
link stands for it, and then every rendering has its lines. -/
theorem linkIds_spare_links_iff {stack : Stack} {schema : Prisma.Schema} {result : Esdl.Schema}
    (converted : (convert stack schema).outcome = .ok result) {name : Text} {type : ObjectType}
    (declared : (name, type) ∈ result.types.entries) :
    ∃ models, schema.models stack = .ok models ∧ ∃ model, models.get? name = some model ∧
      ((∀ id ∈ type.linkIds, id ∉ type.links.keys ∧ id ∉ type.backlinks.keys) ↔
        ∀ field ∈ model.fields.contents, isLink models field = true →
          ¬ StandsFor stack models model field.name) ∧
      ∀ linkName pointer, (linkName, pointer) ∈ type.links.entries →
        ((linkName, pointer) ∈ type.storedPointers ↔
          ¬ StandsFor stack models model linkName) ∧
        ((linkName, pointer) ∈ type.storedPointers →
          ∀ moduleName, pointer.lines linkName <:+: result.lines moduleName) := by
  obtain ⟨models, indexed⟩ := exists_models_of_convert converted
  obtain ⟨model, member, rfl, outcome⟩ := exists_model_of_convert indexed converted declared
  have unique := Schema.isIndexed_of_mem indexed member
  refine ⟨models, indexed, model, (Schema.get?_models_iff indexed).mpr ⟨member, rfl⟩,
    linkIds_spare_iff unique outcome, ?_⟩
  intro linkName pointer recorded
  exact ⟨mem_storedPointers_of_link_iff unique outcome recorded,
    Schema.lines_infix_of_stored declared⟩

/-- Articles with an author and an editor. The link to the author is said to be held by the link to
the editor, and that one by the reviews of the article, which are a backlink. -/
def articles : Prisma.Schema := ⟨[
  .model "Article" [
    .field ⟨"author", .text "User", false, false,
      [⟨"relation", [.keyed "fields" (.list [.text "editor"])]⟩]⟩,
    .field ⟨"editor", .text "User", false, false,
      [⟨"relation", [.keyed "fields" (.list [.text "reviews"])]⟩]⟩,
    .field ⟨"reviews", .text "Review", true, false, []⟩],
  .model "User" [.field ⟨"email", .text "String", false, false, []⟩],
  .model "Review" [.field ⟨"article", .text "Article", false, false, [⟨"relation", []⟩]⟩]]⟩

theorem articles_hide_editor :
    ∃ result type, (convert .usual articles).outcome = .ok result ∧
      (("Article" : Text), type) ∈ result.types.entries ∧
      ∃ models, articles.models .usual = .ok models ∧ ∃ model, models.get? "Article" = some model ∧
        ((∀ id ∈ type.linkIds, id ∉ type.links.keys ∧ id ∉ type.backlinks.keys) ↔
          ∀ field ∈ model.fields.contents, isLink models field = true →
            ¬ StandsFor .usual models model field.name) ∧
        ∀ linkName pointer, (linkName, pointer) ∈ type.links.entries →
          ((linkName, pointer) ∈ type.storedPointers ↔
            ¬ StandsFor .usual models model linkName) ∧
          ((linkName, pointer) ∈ type.storedPointers →
            ∀ moduleName, pointer.lines linkName <:+: result.lines moduleName) := by
  have converted : (convert .usual articles).outcome = .ok _ := rfl
  exact ⟨_, _, converted, .head _, linkIds_spare_links_iff converted (.head _)⟩

/-- Link ids do not name scalar fields only: they name the reviews of an article, which are a
backlink, and its editor, a stored link that is left out of the stored pointers. -/
theorem not_all_links_spared :
    ¬ ∀ (schema : Prisma.Schema) (result : Esdl.Schema),
      (convert .usual schema).outcome = .ok result →
      ∀ name type, (name, type) ∈ result.types.entries →
        (∀ id ∈ type.linkIds, id ∉ type.links.keys ∧ id ∉ type.backlinks.keys) ∧
        ∀ entry ∈ type.links.entries, entry ∈ type.storedPointers := by
  intro spared
  have editor := (spared articles _ rfl "Article" _ (.head _)).1 "editor" (.head _)
  exact editor.1 (.tail _ (.head _))

end PrismaEsdl.Conversion
