import Mathlib.Data.List.Forall2
import PrismaEsdl.Proofs.Esdl.Rendering

/-!
The layout of a rendered schema.

A block is the line of an enum or the lines of an object type: the pointers that are stored, each in
the rows that its constraint and its default call for, then its backlinks (`EnumBlock`,
`PointerRows`, `TypeBlock`). One empty line stands between two blocks, and nowhere else (`Stacked`).
Where no text of a schema is broken by a line feed, the lines of its text are the only ones that are
laid out in this way (`Schema.render_is_laid_out`).
-/

namespace PrismaEsdl.Esdl

open Text

/-! ### Pointers -/

/-- How many values a pointer holds, as it is written before its kind. -/
def Cardinality.word : Cardinality → Text
  | optional => ""
  | required => "required "
  | multi => "multi "

/-- A pointer as it is written without its constraint and its default. -/
def Pointer.declaration (name : Text) (pointer : Pointer) : Text :=
  pointer.cardinality.word ++ pointer.kind.keyword ++ " " ++ name ++ " -> " ++ pointer.type

/-- The lines of a pointer: one, or a block around its constraint, its default, or both. -/
inductive PointerRows (name : Text) (pointer : Pointer) : List Text → Prop where
  | line (shared : pointer.exclusive = false) (empty : pointer.default = none) :
      PointerRows name pointer ["    " ++ pointer.declaration name ++ ";"]
  | constraint (exclusive : pointer.exclusive = true) (empty : pointer.default = none) :
      PointerRows name pointer ["    " ++ pointer.declaration name ++ " \x7b",
        "      constraint exclusive;", "    \x7d;"]
  | default {value : Text} (shared : pointer.exclusive = false)
      (given : pointer.default = some value) :
      PointerRows name pointer ["    " ++ pointer.declaration name ++ " \x7b",
        "      default := " ++ value ++ ";", "    \x7d;"]
  | both {value : Text} (exclusive : pointer.exclusive = true)
      (given : pointer.default = some value) :
      PointerRows name pointer ["    " ++ pointer.declaration name ++ " \x7b",
        "      constraint exclusive;", "      default := " ++ value ++ ";", "    \x7d;"]

theorem Pointer.head_eq (name : Text) (pointer : Pointer) :
    pointer.head name = "    " ++ pointer.declaration name := by
  unfold head declaration isRequired isMulti
  cases pointer.cardinality <;> simp [Cardinality.word, Text.ofString]

theorem PointerRows.eq_lines {name : Text} {pointer : Pointer} {rows : List Text}
    (laid : PointerRows name pointer rows) : pointer.lines name = rows := by
  unfold Pointer.lines Pointer.hasBlock Pointer.blockLines
  rw [Pointer.head_eq]
  cases laid with
  | line shared empty =>
      rw [shared, empty]
      rfl
  | constraint exclusive empty =>
      rw [exclusive, empty]
      rfl
  | default shared given =>
      rw [shared, given]
      rfl
  | both exclusive given =>
      rw [exclusive, given]
      rfl

/-- Every pointer is written in one of these ways. -/
theorem exists_pointerRows (name : Text) (pointer : Pointer) :
    ∃ rows, PointerRows name pointer rows := by
  cases exclusive : pointer.exclusive with
  | false =>
      cases given : pointer.default with
      | none => exact ⟨_, .line exclusive given⟩
      | some value => exact ⟨_, .default exclusive given⟩
  | true =>
      cases given : pointer.default with
      | none => exact ⟨_, .constraint exclusive given⟩
      | some value => exact ⟨_, .both exclusive given⟩

theorem pointerRows_iff (name : Text) (pointer : Pointer) (rows : List Text) :
    PointerRows name pointer rows ↔ pointer.lines name = rows := by
  constructor
  · exact PointerRows.eq_lines
  · rintro rfl
    obtain ⟨rows, laid⟩ := exists_pointerRows name pointer
    exact laid.eq_lines ▸ laid

/-! ### Enums and object types -/

/-- The line of a backlink. -/
inductive BacklinkRow (name : Text) (backlink : Backlink) : Text → Prop where
  | single (one : backlink.multi = false) :
      BacklinkRow name backlink ("    link " ++ name ++ " := " ++ backlink.expression ++ ";")
  | multi (many : backlink.multi = true) :
      BacklinkRow name backlink ("    multi link " ++ name ++ " := " ++ backlink.expression ++ ";")

/-- The line of an enum. -/
inductive EnumBlock (name : Text) (values : List Text) : List Text → Prop where
  | line : EnumBlock name values
      ["  scalar type " ++ name ++ " extending enum<" ++ Text.join ", " values ++ ">;"]

/-- The lines of an object type: its stored pointers in their order, then its backlinks. -/
inductive TypeBlock (name : Text) (type : ObjectType) : List Text → Prop where
  | block {pointers : List (List Text)} {backlinks : List Text}
      (stored : List.Forall₂ (fun entry rows => PointerRows entry.1 entry.2 rows)
        type.storedPointers pointers)
      (computed : List.Forall₂ (fun entry row => BacklinkRow entry.1 entry.2 row)
        type.backlinks.entries backlinks) :
      TypeBlock name type
        (("  type " ++ name ++ " \x7b") :: pointers.flatten ++ backlinks ++ [("  \x7d" : Text)])

theorem backlinkRow_iff (name : Text) (backlink : Backlink) (row : Text) :
    BacklinkRow name backlink row ↔ backlink.line name = row := by
  constructor
  · intro laid
    unfold Backlink.line
    cases laid with
    | single one => simp [one, Text.ofString]
    | multi many => simp [many, Text.ofString]
  · rintro rfl
    unfold Backlink.line
    cases many : backlink.multi with
    | false => exact .single many
    | true => exact .multi many

theorem enumBlock_iff (name : Text) (values : List Text) (lines : List Text) :
    EnumBlock name values lines ↔ [enumLine name values] = lines := by
  constructor
  · rintro ⟨⟩
    rfl
  · rintro rfl
    exact .line

/-- Where each item has one image, so do the items in a row. -/
theorem forall₂_iff_map_eq {α : Type u} {β : Type v} {related : α → β → Prop} {image : α → β}
    (related_iff : ∀ a b, related a b ↔ image a = b) (as : List α) (bs : List β) :
    List.Forall₂ related as bs ↔ as.map image = bs := by
  have same : related = fun a b => image a = b := by
    funext a b
    exact propext (related_iff a b)
  rw [same, ← List.forall₂_map_left_iff, List.forall₂_eq_eq_eq]

theorem typeBlock_iff (name : Text) (type : ObjectType) (lines : List Text) :
    TypeBlock name type lines ↔ type.lines name = lines := by
  have stored_iff := forall₂_iff_map_eq
    (fun (entry : Text × Pointer) => pointerRows_iff entry.1 entry.2) type.storedPointers
  have computed_iff := forall₂_iff_map_eq
    (fun (entry : Text × Backlink) => backlinkRow_iff entry.1 entry.2) type.backlinks.entries
  constructor
  · rintro ⟨stored, computed⟩
    rw [← (stored_iff _).mp stored, ← (computed_iff _).mp computed, ← List.flatMap_def]
    rfl
  · rintro rfl
    have block : TypeBlock name type _ := .block ((stored_iff _).mpr rfl) ((computed_iff _).mpr rfl)
    rwa [← List.flatMap_def] at block

/-! ### Schemas -/

/-- Blocks below each other, with one empty line between two of them. -/
inductive Stacked : List (List Text) → List Text → Prop where
  | none : Stacked [] []
  | one {block : List Text} : Stacked [block] block
  | more {block next lines : List Text} {rest : List (List Text)}
      (later : Stacked (next :: rest) lines) :
      Stacked (block :: next :: rest) (block ++ [] :: lines)

theorem stacked_iff {blocks : List (List Text)} {lines : List Text} :
    Stacked blocks lines ↔ List.intercalate [[]] blocks = lines := by
  constructor
  · intro stacked
    induction stacked with
    | none => rfl
    | one => exact List.intercalate_singleton
    | more later ih => rw [List.intercalate_cons_cons, ih, List.append_assoc, List.singleton_append]
  · rintro rfl
    induction blocks with
    | nil => exact .none
    | cons block rest ih =>
        cases rest with
        | nil =>
            rw [List.intercalate_singleton]
            exact .one
        | cons next rest =>
            rw [List.intercalate_cons_cons, List.append_assoc, List.singleton_append]
            exact .more ih

/-- The lines of a schema in a module: its enums and then its object types, stacked. No line in a
block is empty. -/
inductive Layout (schema : Schema) (moduleName : Text) : List Text → Prop where
  | framed {enums types : List (List Text)} {inside : List Text}
      (listed : List.Forall₂ (fun entry block => EnumBlock entry.1 entry.2 block)
        schema.enums.entries enums)
      (declared : List.Forall₂ (fun entry block => TypeBlock entry.1 entry.2 block)
        schema.types.entries types)
      (stacked : Stacked (enums ++ types) inside)
      (filled : ∀ block ∈ enums ++ types, [] ∉ block) :
      Layout schema moduleName (("module " ++ moduleName ++ " \x7b") :: inside ++ [("\x7d" : Text)])

namespace Schema

variable {schema : Schema} {moduleName : Text}

theorem layout_iff (unbroken : schema.IsUnbroken) (lines : List Text) :
    Layout schema moduleName lines ↔ schema.lines moduleName = lines := by
  rw [Schema.lines_eq]
  have listed_iff := forall₂_iff_map_eq
    (fun (entry : Text × List Text) => enumBlock_iff entry.1 entry.2) schema.enums.entries
  have declared_iff := forall₂_iff_map_eq
    (fun (entry : Text × ObjectType) => typeBlock_iff entry.1 entry.2) schema.types.entries
  constructor
  · rintro ⟨listed, declared, stacked, -⟩
    rw [← (listed_iff _).mp listed, ← (declared_iff _).mp declared] at stacked
    rw [← stacked_iff.mp stacked]
    rfl
  · rintro rfl
    apply Layout.framed ((listed_iff _).mpr rfl) ((declared_iff _).mpr rfl) (stacked_iff.mpr rfl)
    intro block member
    exact (unbroken.isPart_blocks block member).unmarked

/-- The lines of the text of a schema, each closed by a line feed, are laid out as the schema asks,
and no others are. -/
theorem render_is_laid_out (unbroken : schema.IsUnbroken)
    (named : CodePoint.char '\n' ∉ moduleName) :
    ∃ lines, split (.char '\n') (schema.render moduleName) = lines ++ [[]] ∧
      ∀ other, Layout schema moduleName other ↔ lines = other := by
  refine ⟨schema.lines moduleName, ?_, ?_⟩
  · exact split_unlines (unbroken.unbroken_lines named)
  · exact layout_iff unbroken

/-- Posts with a slug that takes a block and a status that takes one line. -/
theorem posts_are_laid_out :
    let posts := ofPosts { props := .ofList postProps }
    (posts.IsUnbroken ∧ CodePoint.char '\n' ∉ ("blog" : Text)) ∧ Layout posts "blog" [
      "module blog \x7b",
      "  scalar type Status extending enum<DRAFT, PUBLISHED>;",
      "",
      "  type Post \x7b",
      "    required property slug -> str \x7b",
      "      constraint exclusive;",
      "      default := '';",
      "    \x7d;",
      "    property status -> Status;",
      "  \x7d",
      "\x7d"] := by
  intro posts
  have unbroken : posts.IsUnbroken := by decide
  have named : CodePoint.char '\n' ∉ ("blog" : Text) := by decide
  obtain ⟨lines, text, laid⟩ := render_is_laid_out unbroken named
  have written : posts.lines "blog" = lines := by
    rw [render, split_unlines (unbroken.unbroken_lines named)] at text
    exact List.append_cancel_right text
  refine ⟨⟨unbroken, named⟩, (laid _).mpr (written.symm.trans ?_)⟩
  decide +kernel

end Schema

end PrismaEsdl.Esdl
