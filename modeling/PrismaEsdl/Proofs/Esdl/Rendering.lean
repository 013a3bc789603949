import PrismaEsdl.Proofs.Esdl.Line

/-!
The text of a schema determines the schema.

A text is read back from the outside in: into lines, which no line feed ends early
(`split_unlines`); into blocks, which no empty line ends early (`Schema.lines_injective`); each
block into an enum or an object type (`enumBlocks_injective`), and the inside of an object type into
pointers and backlinks (`members_injective`). What is left out of the text is what no reader can
know: the fields that a link id hides, and the link ids themselves (`ObjectType.shown`). So a text
determines what a schema shows (`Schema.render_determines_schema`), and is determined by it
(`Schema.render_eq_of_shown_eq`).

A block is the lines of an enum or of a type. The loops over both put one empty line between any two
blocks, and none before the first (`Schema.lines_eq`).
-/

namespace PrismaEsdl.Esdl

open Text

/-- Lines without line feeds are the pieces of their text; behind the last line feed stands an
empty one. -/
theorem split_unlines {lines : List Text} (unbroken : ∀ line ∈ lines, CodePoint.char '\n' ∉ line) :
    split (.char '\n') (unlines lines) = lines ++ [[]] := by
  induction lines with
  | nil => rfl
  | cons line rest ih =>
      obtain ⟨first, later⟩ := List.forall_mem_cons.mp unbroken
      have text : unlines (line :: rest) = line ++ CodePoint.char '\n' :: unlines rest := by
        rw [unlines, List.flatMap_cons, List.append_assoc]
        rfl
      rw [text, split_append first, ih later, List.cons_append]

/-- Lines without line feeds are determined by their text. -/
theorem unlines_injective {lines lines' : List Text}
    (unbroken : ∀ line ∈ lines, CodePoint.char '\n' ∉ line)
    (unbroken' : ∀ line ∈ lines', CodePoint.char '\n' ∉ line)
    (same : unlines lines = unlines lines') : lines = lines' := by
  have samePieces : lines ++ [[]] = lines' ++ [[]] := by
    rw [← split_unlines unbroken, same, split_unlines unbroken']
  exact List.append_cancel_right samePieces

/-! ### Enums -/

/-- An enum whose name and values are words. -/
structure IsPlainEnum (name : Text) (values : List Text) : Prop where
  name : IsWord name
  values : ∀ value ∈ values, IsWord value

instance {name : Text} {values : List Text} : Decidable (IsPlainEnum name values) :=
  decidable_of_iff (IsWord name ∧ ∀ value ∈ values, IsWord value)
    ⟨fun ⟨name, values⟩ => ⟨name, values⟩, fun ⟨name, values⟩ => ⟨name, values⟩⟩

/-- The line of an enum shows its name and its values. -/
theorem enumLine_injective {name name' : Text} {values values' : List Text}
    (plain : IsPlainEnum name values) (plain' : IsPlainEnum name' values')
    (same : enumLine name values = enumLine name' values') : name = name' ∧ values = values' := by
  have extending : (" extending enum<" : Text) = CodePoint.char ' ' :: ("extending enum<" : Text) :=
    by decide
  simp only [enumLine, extending, List.append_assoc, List.cons_append] at same
  obtain ⟨sameName, later⟩ := append_mark_injective plain.name.unspaced plain'.name.unspaced
    (List.append_cancel_left same)
  have sameJoined := List.append_cancel_right (List.append_cancel_left later)
  have isPart : ∀ {values : List Text}, (∀ value ∈ values, IsWord value) →
      ∀ value ∈ values, IsPart (CodePoint.char ',') value :=
    fun words value member => ⟨(words value member).nonempty, (words value member).unlisted⟩
  exact ⟨sameName,
    intercalate_injective (isPart plain.values) (isPart plain'.values) sameJoined⟩

/-- An enum of whose texts none is broken by a line feed. -/
structure IsUnbrokenEnum (name : Text) (values : List Text) : Prop where
  name : CodePoint.char '\n' ∉ name
  values : ∀ value ∈ values, CodePoint.char '\n' ∉ value

instance {name : Text} {values : List Text} : Decidable (IsUnbrokenEnum name values) :=
  decidable_of_iff (CodePoint.char '\n' ∉ name ∧ ∀ value ∈ values, CodePoint.char '\n' ∉ value)
    ⟨fun ⟨name, values⟩ => ⟨name, values⟩, fun ⟨name, values⟩ => ⟨name, values⟩⟩

theorem IsPlainEnum.isUnbroken {name : Text} {values : List Text}
    (plain : IsPlainEnum name values) : IsUnbrokenEnum name values :=
  ⟨plain.name.unbroken, fun value member => (plain.values value member).unbroken⟩

theorem IsUnbrokenEnum.isLine {name : Text} {values : List Text}
    (unbroken : IsUnbrokenEnum name values) : IsLine (enumLine name values) := by
  have joined : ∀ p ∈ Text.join ", " values, p ≠ CodePoint.char '\n' :=
    forall_mem_intercalate (by decide) fun value member p inside broken =>
      unbroken.values value member (broken ▸ inside)
  have whole : CodePoint.char '\n' ∉ Text.join ", " values := fun member => joined _ member rfl
  unfold enumLine
  exact (((IsLine.append ⟨by decide, by decide⟩ unbroken.name).append (by decide)).append
    whole).append (by decide)

/-! ### Object types -/

/-- An object type that is written in words, without those of its pointers that a link stands
for. -/
structure ObjectType.IsPlain (type : ObjectType) : Prop where
  pointers : ∀ entry ∈ type.storedPointers, Pointer.IsPlain entry.1 entry.2
  backlinks : ∀ entry ∈ type.backlinks.entries, Backlink.IsPlain entry.1 entry.2

instance {type : ObjectType} : Decidable type.IsPlain :=
  decidable_of_iff ((∀ entry ∈ type.storedPointers, Pointer.IsPlain entry.1 entry.2) ∧
      ∀ entry ∈ type.backlinks.entries, Backlink.IsPlain entry.1 entry.2)
    ⟨fun ⟨pointers, backlinks⟩ => ⟨pointers, backlinks⟩,
      fun ⟨pointers, backlinks⟩ => ⟨pointers, backlinks⟩⟩

/-- What the text of an object type shows: its stored pointers and its backlinks, in order. -/
def ObjectType.shown (type : ObjectType) : List (Text × Pointer) × List (Text × Backlink) :=
  (type.storedPointers, type.backlinks.entries)

/-- The lines inside an object type show its pointers and its backlinks: the pointers end where the
first line of a backlink stands. -/
theorem members_injective {pointers pointers' : List (Text × Pointer)}
    {backlinks backlinks' : List (Text × Backlink)} (left : ∀ entry ∈ pointers, IsWord entry.1)
    (right : ∀ entry ∈ pointers', IsWord entry.1) (left' : ∀ entry ∈ backlinks, IsWord entry.1)
    (right' : ∀ entry ∈ backlinks', IsWord entry.1)
    (same : pointers.flatMap (fun entry => entry.2.lines entry.1)
        ++ backlinks.map (fun entry => entry.2.line entry.1)
      = pointers'.flatMap (fun entry => entry.2.lines entry.1)
        ++ backlinks'.map (fun entry => entry.2.line entry.1)) :
    pointers = pointers' ∧ backlinks = backlinks' := by
  have sections : pointers = pointers' ∧ backlinks.map id = backlinks'.map id := by
    refine sections_injective (P := fun entry => IsWord entry.1) (Q := fun entry => IsWord entry.1)
      ?_ ?_ ?_ ?_ left right left' right' same
    · intro entry entry' rest rest' word word' sameLines
      obtain ⟨sameName, samePointer, sameRest⟩ := Pointer.lines_injective word word' sameLines
      exact ⟨Prod.ext_iff.mpr ⟨sameName, samePointer⟩, sameRest⟩
    · intro entry computed word word'
      exact ⟨_, _, Pointer.lines_eq entry.1 entry.2, Pointer.opening_ne_line word word'⟩
    · intro entry
      rw [Pointer.lines_eq]
      exact List.cons_ne_nil _ _
    · intro computed computed' word word' sameLine
      exact Prod.ext_iff.mpr (Backlink.line_injective word word' sameLine)
  simpa using sections

namespace ObjectType

/-- The lines of an object type show its name and what is in it. -/
theorem lines_injective {name name' : Text} {type type' : ObjectType} (plain : type.IsPlain)
    (plain' : type'.IsPlain) (same : type.lines name = type'.lines name') :
    name = name' ∧ type.shown = type'.shown := by
  obtain ⟨sameHead, later⟩ := List.cons.inj same
  obtain ⟨samePointers, sameBacklinks⟩ := members_injective
    (fun entry member => (plain.pointers entry member).name)
    (fun entry member => (plain'.pointers entry member).name)
    (fun entry member => (plain.backlinks entry member).name)
    (fun entry member => (plain'.backlinks entry member).name) (List.append_cancel_right later)
  have sameName := List.append_cancel_left (List.append_cancel_right sameHead)
  exact ⟨sameName, Prod.ext_iff.mpr ⟨samePointers, sameBacklinks⟩⟩

/-- An object type of whose texts none is broken by a line feed, without those of the pointers that
a link stands for. -/
structure IsUnbroken (name : Text) (type : ObjectType) : Prop where
  name : CodePoint.char '\n' ∉ name
  pointers : ∀ entry ∈ type.storedPointers, Pointer.IsUnbroken entry.1 entry.2
  backlinks : ∀ entry ∈ type.backlinks.entries, Backlink.IsUnbroken entry.1 entry.2

instance {name : Text} {type : ObjectType} : Decidable (IsUnbroken name type) :=
  decidable_of_iff (CodePoint.char '\n' ∉ name ∧
      (∀ entry ∈ type.storedPointers, Pointer.IsUnbroken entry.1 entry.2) ∧
      ∀ entry ∈ type.backlinks.entries, Backlink.IsUnbroken entry.1 entry.2)
    ⟨fun ⟨name, pointers, backlinks⟩ => ⟨name, pointers, backlinks⟩,
      fun ⟨name, pointers, backlinks⟩ => ⟨name, pointers, backlinks⟩⟩

theorem IsPlain.isUnbroken {name : Text} {type : ObjectType} (word : IsWord name)
    (plain : type.IsPlain) : IsUnbroken name type :=
  ⟨word.unbroken, fun entry stored => (plain.pointers entry stored).isUnbroken,
    fun entry computed => (plain.backlinks entry computed).isUnbroken⟩

theorem IsUnbroken.isLine {name : Text} {type : ObjectType} (unbroken : IsUnbroken name type) :
    ∀ line ∈ type.lines name, IsLine line := by
  intro line member
  rcases List.mem_cons.mp member with rfl | member
  · exact (IsLine.append ⟨by decide, by decide⟩ unbroken.name).append (by decide)
  · rcases List.mem_append.mp member with inside | last
    · rcases List.mem_append.mp inside with pointers | backlinks
      · obtain ⟨entry, stored, here⟩ := List.mem_flatMap.mp pointers
        exact (unbroken.pointers entry stored).isLine line here
      · obtain ⟨entry, computed, rfl⟩ := List.mem_map.mp backlinks
        exact (unbroken.backlinks entry computed).isLine
    · rw [List.mem_singleton.mp last]
      exact ⟨by decide, by decide⟩

end ObjectType

/-! ### Schemas -/

/-- No line of an enum begins an object type. -/
theorem enumLine_ne_typeHead {name name' : Text} {values : List Text} :
    enumLine name values ≠ typeHead name' := by
  intro same
  have start : List.take 3 (enumLine name values) = List.take 3 (typeHead name') :=
    congrArg (List.take 3) same
  change ("  s" : Text) = "  t" at start
  exact absurd start (by decide)

/-- A schema that is written in words. -/
structure Schema.IsPlain (schema : Schema) : Prop where
  enums : ∀ entry ∈ schema.enums.entries, IsPlainEnum entry.1 entry.2
  types : ∀ entry ∈ schema.types.entries, IsWord entry.1 ∧ entry.2.IsPlain

instance {schema : Schema} : Decidable schema.IsPlain :=
  decidable_of_iff ((∀ entry ∈ schema.enums.entries, IsPlainEnum entry.1 entry.2) ∧
      ∀ entry ∈ schema.types.entries, IsWord entry.1 ∧ entry.2.IsPlain)
    ⟨fun ⟨enums, types⟩ => ⟨enums, types⟩, fun ⟨enums, types⟩ => ⟨enums, types⟩⟩

/-- The blocks of a schema show its enums and its types: the enums end where the first block begins
a type. -/
theorem enumBlocks_injective {enums enums' : List (Text × List Text)}
    {types types' : List (Text × ObjectType)}
    (left : ∀ entry ∈ enums, IsPlainEnum entry.1 entry.2)
    (right : ∀ entry ∈ enums', IsPlainEnum entry.1 entry.2)
    (left' : ∀ entry ∈ types, entry.2.IsPlain) (right' : ∀ entry ∈ types', entry.2.IsPlain)
    (same : enums.map (fun entry => [enumLine entry.1 entry.2])
        ++ types.map (fun entry => entry.2.lines entry.1)
      = enums'.map (fun entry => [enumLine entry.1 entry.2])
        ++ types'.map (fun entry => entry.2.lines entry.1)) :
    enums = enums' ∧
      types.map (fun entry => (entry.1, entry.2.shown))
        = types'.map (fun entry => (entry.1, entry.2.shown)) := by
  rw [List.map_eq_flatMap (l := enums), List.map_eq_flatMap (l := enums')] at same
  refine sections_injective (P := fun entry => IsPlainEnum entry.1 entry.2)
    (Q := fun entry => entry.2.IsPlain) ?_ ?_ ?_ ?_ left right left' right' same
  · intro entry entry' rest rest' plain plain' sameBlocks
    obtain ⟨sameBlock, sameRest⟩ := List.cons.inj sameBlocks
    exact ⟨Prod.ext_iff.mpr (enumLine_injective plain plain' (List.cons.inj sameBlock).1), sameRest⟩
  · intro entry type _ _
    exact ⟨_, _, rfl, fun sameBlock => enumLine_ne_typeHead (List.cons.inj sameBlock).1⟩
  · exact fun entry => List.cons_ne_nil _ _
  · intro type type' plain plain' sameLines
    exact Prod.ext_iff.mpr (ObjectType.lines_injective plain plain' sameLines)

/-! ### Blocks -/

/-- Blocks with an empty line between any two of them. -/
theorem intercalate_eq (block : List Text) (blocks : List (List Text)) :
    List.intercalate [[]] (block :: blocks) = block ++ blocks.flatMap ([] :: ·) := by
  induction blocks generalizing block with
  | nil => simp
  | cons next rest ih => simp [List.intercalate_cons_cons, ih]

section

variable {α : Type} {isSpaced : Bool → Bool} (part : α → List Text)

/-- A loop that puts an empty line before each part. -/
theorem loopLines_eq_flatMap {first : Bool} (later : isSpaced false = true)
    (spaced : isSpaced first = true) (parts : List α) :
    loopLines isSpaced part first parts = (parts.map part).flatMap ([] :: ·) := by
  induction parts generalizing first with
  | nil => rfl
  | cons a rest ih => simp [loopLines, spaced, ih later]

/-- A loop that puts an empty line before each part but the first. -/
theorem loopLines_eq_intercalate (later : isSpaced false = true) (tight : isSpaced true = false)
    (parts : List α) :
    loopLines isSpaced part true parts = List.intercalate [[]] (parts.map part) := by
  cases parts with
  | nil => rfl
  | cons a rest =>
      rw [loopLines, tight, loopLines_eq_flatMap part later later, List.map_cons, intercalate_eq]
      rfl

end

namespace Schema

/-- The blocks of a schema: enums, then types. -/
def blocks (schema : Schema) : List (List Text) :=
  schema.enums.entries.map (fun entry => [enumLine entry.1 entry.2])
    ++ schema.types.entries.map (fun entry => entry.2.lines entry.1)

/-- The lines of a schema are its blocks, with an empty line between any two of them. -/
theorem lines_eq (schema : Schema) (moduleName : Text) :
    schema.lines moduleName
      = moduleHead moduleName :: List.intercalate [[]] schema.blocks ++ [moduleEnd] := by
  have inside : schema.enumLines ++ schema.typeLines = List.intercalate [[]] schema.blocks := by
    unfold enumLines typeLines blocks
    rw [loopLines_eq_intercalate _ rfl rfl]
    cases schema.enums.entries with
    | nil => exact loopLines_eq_intercalate _ rfl rfl _
    | cons entry rest =>
        rw [loopLines_eq_flatMap _ rfl rfl, List.map_cons, List.cons_append, intercalate_eq,
          intercalate_eq, List.flatMap_append, List.append_assoc]
  rw [lines, List.cons_append, inside]

/-- What the text of a schema shows: its enums, and its types by what their texts show. -/
def shown (schema : Schema) :
    List (Text × List Text) × List (Text × List (Text × Pointer) × List (Text × Backlink)) :=
  (schema.enums.entries, schema.types.entries.map fun entry => (entry.1, entry.2.shown))

variable {schema schema' : Schema}

/-- A schema of whose texts none is broken by a line feed. -/
structure IsUnbroken (schema : Schema) : Prop where
  enums : ∀ entry ∈ schema.enums.entries, IsUnbrokenEnum entry.1 entry.2
  types : ∀ entry ∈ schema.types.entries, ObjectType.IsUnbroken entry.1 entry.2

instance : Decidable schema.IsUnbroken :=
  decidable_of_iff ((∀ entry ∈ schema.enums.entries, IsUnbrokenEnum entry.1 entry.2) ∧
      ∀ entry ∈ schema.types.entries, ObjectType.IsUnbroken entry.1 entry.2)
    ⟨fun ⟨enums, types⟩ => ⟨enums, types⟩, fun ⟨enums, types⟩ => ⟨enums, types⟩⟩

theorem IsPlain.isUnbroken (plain : schema.IsPlain) : schema.IsUnbroken := by
  refine ⟨fun entry declared => (plain.enums entry declared).isUnbroken, ?_⟩
  intro entry declared
  obtain ⟨word, inside⟩ := plain.types entry declared
  exact inside.isUnbroken word

theorem IsUnbroken.isLine_blocks (unbroken : schema.IsUnbroken) :
    ∀ block ∈ schema.blocks, ∀ line ∈ block, IsLine line := by
  intro block member line here
  rcases List.mem_append.mp member with enums | types
  · obtain ⟨entry, declared, rfl⟩ := List.mem_map.mp enums
    rw [List.mem_singleton.mp here]
    exact (unbroken.enums entry declared).isLine
  · obtain ⟨entry, declared, rfl⟩ := List.mem_map.mp types
    exact (unbroken.types entry declared).isLine line here

/-- No block is empty, and no line in a block is. -/
theorem IsUnbroken.isPart_blocks (unbroken : schema.IsUnbroken) :
    ∀ block ∈ schema.blocks, IsPart [] block := by
  intro block member
  refine ⟨?_, fun gap => (unbroken.isLine_blocks block member [] gap).nonempty rfl⟩
  rcases List.mem_append.mp member with enums | types
  · obtain ⟨entry, _, rfl⟩ := List.mem_map.mp enums
    exact List.cons_ne_nil _ _
  · obtain ⟨entry, _, rfl⟩ := List.mem_map.mp types
    exact List.cons_ne_nil _ _

theorem IsUnbroken.unbroken_lines {moduleName : Text} (unbroken : schema.IsUnbroken)
    (named : CodePoint.char '\n' ∉ moduleName) :
    ∀ line ∈ schema.lines moduleName, CodePoint.char '\n' ∉ line := by
  rw [lines_eq]
  have inBlocks : ∀ line ∈ List.intercalate [[]] schema.blocks, CodePoint.char '\n' ∉ line :=
    forall_mem_intercalate (by decide) fun block member line here =>
      (unbroken.isLine_blocks block member line here).unbroken
  intro line member
  rcases List.mem_cons.mp member with rfl | member
  · exact ((IsLine.append ⟨by decide, by decide⟩ named).append (by decide)).unbroken
  · rcases List.mem_append.mp member with inside | last
    · exact inBlocks line inside
    · rw [List.mem_singleton.mp last]
      decide

theorem IsPlain.unbroken_lines {moduleName : Text} (word : IsWord moduleName)
    (plain : schema.IsPlain) : ∀ line ∈ schema.lines moduleName, CodePoint.char '\n' ∉ line :=
  plain.isUnbroken.unbroken_lines word.unbroken

/-- The lines of a schema show the name of the module and the schema. -/
theorem lines_injective {moduleName moduleName' : Text} (plain : schema.IsPlain)
    (plain' : schema'.IsPlain) (same : schema.lines moduleName = schema'.lines moduleName') :
    moduleName = moduleName' ∧ schema.shown = schema'.shown := by
  rw [lines_eq, lines_eq] at same
  obtain ⟨sameHead, later⟩ := List.cons.inj same
  have sameBlocks := intercalate_injective plain.isUnbroken.isPart_blocks
    plain'.isUnbroken.isPart_blocks
    (List.append_cancel_right later)
  obtain ⟨sameEnums, sameTypes⟩ := enumBlocks_injective plain.enums plain'.enums
    (fun entry member => (plain.types entry member).2)
    (fun entry member => (plain'.types entry member).2) sameBlocks
  exact ⟨List.append_cancel_left (List.append_cancel_right sameHead),
    Prod.ext_iff.mpr ⟨sameEnums, sameTypes⟩⟩

/-- Schemas that show the same have the same text. -/
theorem render_eq_of_shown_eq (moduleName : Text) (same : schema.shown = schema'.shown) :
    schema.render moduleName = schema'.render moduleName := by
  have blocks_eq : ∀ schema : Schema, schema.blocks =
      schema.shown.1.map (fun entry => [enumLine entry.1 entry.2]) ++
        schema.shown.2.map (fun entry => typeHead entry.1
          :: entry.2.1.flatMap (fun stored => stored.2.lines stored.1)
          ++ entry.2.2.map (fun computed => computed.2.line computed.1) ++ [typeEnd]) := by
    intro schema
    simp only [blocks, shown, ObjectType.shown, List.map_map]
    rfl
  unfold render
  rw [lines_eq, lines_eq, blocks_eq schema, blocks_eq schema', same]

/-- The text of a schema determines the name of its module, its enums in order, and its types in
order, each by its name, its stored pointers and its backlinks. -/
theorem render_determines_schema {moduleName moduleName' : Text} (word : IsWord moduleName)
    (word' : IsWord moduleName') (plain : schema.IsPlain) (plain' : schema'.IsPlain)
    (same : schema.render moduleName = schema'.render moduleName') :
    moduleName = moduleName' ∧ schema.enums.entries = schema'.enums.entries ∧
      schema.types.entries.map (fun entry =>
          (entry.1, entry.2.storedPointers, entry.2.backlinks.entries))
        = schema'.types.entries.map (fun entry =>
          (entry.1, entry.2.storedPointers, entry.2.backlinks.entries)) := by
  have sameLines := unlines_injective (plain.unbroken_lines word) (plain'.unbroken_lines word') same
  obtain ⟨sameModule, sameShown⟩ := lines_injective plain plain' sameLines
  exact ⟨sameModule, Prod.ext_iff.mp sameShown⟩

/-- A schema of posts, each with a status. -/
def ofPosts (post : ObjectType) : Schema where
  enums := .ofList [("Status", ["DRAFT", "PUBLISHED"])]
  types := .ofList [("Post", post)]

/-- The slug and the status of a post. -/
def postProps : List (Text × Pointer) := [
  ("slug", ⟨.property, "str", .required, true, some "''"⟩),
  ("status", ⟨.property, "Status", .optional, false, none⟩)]

/-- Posts with an author and comments, and with further properties. -/
def post (props : List (Text × Pointer)) (linkIds : List Text) : ObjectType where
  props := .ofList (props ++ postProps)
  links := .ofList [("author", ⟨.link, "User", .required, false, none⟩)]
  backlinks := .ofList [("comments", ⟨Backlink.through "post" "Comment", true⟩)]
  linkIds := linkIds

/-- An id field that a link stands for leaves no trace in the text. -/
theorem hidden_id_is_not_shown :
    let hidden := post [("authorId", ⟨.property, "str", .required, false, none⟩)] ["authorId"]
    let absent := post [] []
    (IsWord "default" ∧ (ofPosts hidden).IsPlain ∧ (ofPosts absent).IsPlain ∧
      (ofPosts hidden).render "default" = (ofPosts absent).render "default") ∧
      (ofPosts hidden).types.entries.map (fun entry =>
          (entry.1, entry.2.storedPointers, entry.2.backlinks.entries))
        = (ofPosts absent).types.entries.map (fun entry =>
          (entry.1, entry.2.storedPointers, entry.2.backlinks.entries)) := by
  intro hidden absent
  have word : IsWord "default" := isWord_of_continuesIdentifier (by decide) (by decide)
  have plain : (ofPosts hidden).IsPlain := by decide
  have plain' : (ofPosts absent).IsPlain := by decide
  have stored : hidden.shown = absent.shown := by decide
  have shown_ofPosts : ∀ post, (ofPosts post).shown =
      ([(("Status" : Text), [("DRAFT" : Text), "PUBLISHED"])], [(("Post" : Text), post.shown)]) :=
    fun _ => rfl
  have same : (ofPosts hidden).render "default" = (ofPosts absent).render "default" :=
    render_eq_of_shown_eq "default" (by rw [shown_ofPosts, shown_ofPosts, stored])
  exact ⟨⟨word, plain, plain', same⟩,
    (render_determines_schema word word plain plain' same).2.2⟩

end Schema

end PrismaEsdl.Esdl
