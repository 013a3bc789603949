import PrismaEsdl.Esdl.Rendering
import PrismaEsdl.Proofs.Text.Separated
import PrismaEsdl.Text.Identifier

/-!
The lines of a rendered schema.

Each line shows what it was made of as long as the names in it are words: what stands before a
name is one of six openings of which none begins another (`modifiers_injective`), and a word ends
where the next blank stands. So the lines of a pointer determine its name and the pointer, and what
follows them (`Pointer.lines_injective`), the line of a backlink determines the backlink
(`Backlink.line_injective`), and no line of a pointer is that of a backlink
(`Pointer.opening_ne_line`). Where no text of a pointer or a backlink is broken by a line feed,
each of its lines is one (`Pointer.IsUnbroken`, `Backlink.IsUnbroken`).
-/

namespace PrismaEsdl

namespace Text

/-- A text without blank, comma and line feed that is not empty. -/
structure IsWord (t : Text) : Prop where
  nonempty : t ≠ []
  unspaced : CodePoint.char ' ' ∉ t
  unlisted : CodePoint.char ',' ∉ t
  unbroken : CodePoint.char '\n' ∉ t

instance {t : Text} : Decidable (IsWord t) :=
  decidable_of_iff (t ≠ [] ∧ CodePoint.char ' ' ∉ t ∧ CodePoint.char ',' ∉ t ∧
      CodePoint.char '\n' ∉ t)
    ⟨fun ⟨nonempty, unspaced, unlisted, unbroken⟩ => ⟨nonempty, unspaced, unlisted, unbroken⟩,
      fun ⟨nonempty, unspaced, unlisted, unbroken⟩ => ⟨nonempty, unspaced, unlisted, unbroken⟩⟩

/-- Letters, digits and underscores make a word. -/
theorem isWord_of_continuesIdentifier {t : Text} (nonempty : t ≠ [])
    (continues : ∀ p ∈ t, p.continuesIdentifier = true) : IsWord t := by
  have absent : ∀ p : CodePoint, p.continuesIdentifier = false → p ∉ t := by
    intro p other member
    rw [continues p member] at other
    cases other
  exact ⟨nonempty, absent _ (by decide), absent _ (by decide), absent _ (by decide)⟩

/-- A text that fills one line. -/
structure IsLine (t : Text) : Prop where
  nonempty : t ≠ []
  unbroken : CodePoint.char '\n' ∉ t

theorem IsLine.append {t u : Text} (line : IsLine t) (unbroken : CodePoint.char '\n' ∉ u) :
    IsLine (t ++ u) := by
  refine ⟨?_, ?_⟩
  · intro empty
    exact line.nonempty (List.append_eq_nil_iff.mp empty).1
  · rw [List.mem_append]
    rintro (first | later)
    · exact line.unbroken first
    · exact unbroken later

end Text

namespace Esdl

open Text

/-- What stands between the indentation of a line and a name. -/
def modifiers (cardinality : Cardinality) (kind : PointerKind) : Text :=
  let required : Text := if cardinality == .required then "required " else ""
  let multi : Text := if cardinality == .multi then "multi " else ""
  required ++ multi ++ kind.keyword ++ " "

/-- No two openings begin alike, so what follows one of them determines it. -/
theorem modifiers_injective {cardinality cardinality' : Cardinality} {kind kind' : PointerKind}
    {rest rest' : Text}
    (same : modifiers cardinality kind ++ rest = modifiers cardinality' kind' ++ rest') :
    cardinality = cardinality' ∧ kind = kind' ∧ rest = rest' := by
  cases cardinality <;> cases kind <;> cases cardinality' <;> cases kind' <;>
    simp_all [modifiers, PointerKind.keyword, Text.ofString]

/-- The modifiers and a word, with what follows them, are determined by their text. -/
theorem modified_injective {cardinality cardinality' : Cardinality} {kind kind' : PointerKind}
    {name name' rest rest' : Text} (word : IsWord name) (word' : IsWord name')
    (same : "    " ++ (modifiers cardinality kind ++ (name ++ CodePoint.char ' ' :: rest))
      = "    " ++ (modifiers cardinality' kind' ++ (name' ++ CodePoint.char ' ' :: rest'))) :
    cardinality = cardinality' ∧ kind = kind' ∧ name = name' ∧ rest = rest' := by
  obtain ⟨sameCardinality, sameKind, sameNamed⟩ :=
    modifiers_injective (List.append_cancel_left same)
  obtain ⟨sameName, sameRest⟩ :=
    append_mark_injective word.unspaced word'.unspaced sameNamed
  exact ⟨sameCardinality, sameKind, sameName, sameRest⟩

theorem isLine_modified {cardinality : Cardinality} {kind : PointerKind} {name rest : Text}
    (named : CodePoint.char '\n' ∉ name) (unbroken : CodePoint.char '\n' ∉ rest) :
    IsLine ("    " ++ (modifiers cardinality kind ++ (name ++ CodePoint.char ' ' :: rest))) := by
  refine IsLine.append ⟨by decide, by decide⟩ ?_
  have opening : CodePoint.char '\n' ∉ modifiers cardinality kind := by
    cases cardinality <;> cases kind <;> decide
  simp [opening, named, unbroken]

/-! ### Pointers -/

namespace Pointer

/-- The first line of a pointer. -/
def opening (name : Text) (pointer : Pointer) : Text :=
  pointer.head name ++ if pointer.hasBlock then (" \x7b" : Text) else (";" : Text)

theorem lines_eq (name : Text) (pointer : Pointer) :
    pointer.lines name = pointer.opening name ::
      if pointer.hasBlock then pointer.blockLines ++ [blockEnd] else [] := by
  unfold lines opening
  cases pointer.hasBlock <;> rfl

theorem opening_eq (name : Text) (pointer : Pointer) :
    pointer.opening name = "    " ++ (modifiers pointer.cardinality pointer.kind ++
      (name ++ CodePoint.char ' ' ::
        ("-> " ++ (pointer.type ++
          if pointer.hasBlock then (" \x7b" : Text) else (";" : Text))))) := by
  have arrow : (" -> " : Text) = CodePoint.char ' ' :: ("-> " : Text) := by decide
  simp only [opening, head, modifiers, isRequired, isMulti, arrow, List.append_assoc,
    List.cons_append]
  rfl

/-- The first line of a pointer shows all but its constraint and its default, and whether there is
one of them. -/
theorem opening_injective {name name' : Text} {pointer pointer' : Pointer} (word : IsWord name)
    (word' : IsWord name') (same : pointer.opening name = pointer'.opening name') :
    name = name' ∧ pointer.kind = pointer'.kind ∧ pointer.type = pointer'.type ∧
      pointer.cardinality = pointer'.cardinality ∧ pointer.hasBlock = pointer'.hasBlock := by
  rw [opening_eq, opening_eq] at same
  obtain ⟨sameCardinality, sameKind, sameName, sameRest⟩ := modified_injective word word' same
  have ended := List.append_cancel_left sameRest
  have sameBlock : pointer.hasBlock = pointer'.hasBlock := by
    have last := congrArg List.getLast? ended
    cases block : pointer.hasBlock <;> cases block' : pointer'.hasBlock <;>
      simp [block, block', Text.ofString] at last ⊢
  rw [sameBlock] at ended
  exact ⟨sameName, sameKind, List.append_cancel_right ended, sameCardinality, sameBlock⟩

theorem constraintLine_ne_defaultLine (value : Text) : constraintLine ≠ defaultLine value := by
  intro same
  have start : List.take 7 constraintLine = List.take 7 (defaultLine value) :=
    congrArg (List.take 7) same
  change (List.take 7 constraintLine : Text) = "      d" at start
  exact absurd start (by decide)

theorem defaultLine_injective {value value' : Text}
    (same : defaultLine value = defaultLine value') :
    value = value' :=
  List.append_cancel_left (List.append_cancel_right same)

/-- The end of a block is none of the lines inside it. -/
theorem blockEnd_notMem_blockLines (pointer : Pointer) : blockEnd ∉ pointer.blockLines := by
  have indented : ∀ line ∈ pointer.blockLines, List.take 6 line = ("      " : Text) := by
    intro line member
    unfold blockLines at member
    rcases List.mem_append.mp member with constraint | value
    · split at constraint
      · rw [List.mem_singleton.mp constraint]
        rfl
      · cases constraint
    · obtain ⟨value, _, rfl⟩ := List.mem_map.mp value
      rfl
  intro member
  exact absurd (indented blockEnd member) (by decide)

/-- The lines inside the block of a pointer show its constraint and its default. -/
theorem blockLines_injective {pointer pointer' : Pointer}
    (same : pointer.blockLines = pointer'.blockLines) :
    pointer.exclusive = pointer'.exclusive ∧ pointer.default = pointer'.default := by
  obtain ⟨_, _, _, exclusive, value⟩ := pointer
  obtain ⟨_, _, _, exclusive', value'⟩ := pointer'
  have apart := fun text => (constraintLine_ne_defaultLine text).symm
  cases exclusive <;> cases exclusive' <;> cases value <;> cases value' <;>
    simp_all [blockLines, constraintLine_ne_defaultLine]
  all_goals exact defaultLine_injective same

/-- The lines of a pointer show its name, the pointer, and what follows them. -/
theorem lines_injective {name name' : Text} {pointer pointer' : Pointer} {rest rest' : List Text}
    (word : IsWord name) (word' : IsWord name')
    (same : pointer.lines name ++ rest = pointer'.lines name' ++ rest') :
    name = name' ∧ pointer = pointer' ∧ rest = rest' := by
  rw [lines_eq, lines_eq, List.cons_append, List.cons_append] at same
  obtain ⟨sameOpening, later⟩ := List.cons.inj same
  obtain ⟨sameName, sameKind, sameType, sameCardinality, sameBlock⟩ :=
    opening_injective word word' sameOpening
  have sameInside : (pointer.exclusive = pointer'.exclusive ∧
      pointer.default = pointer'.default) ∧ rest = rest' := by
    rw [← sameBlock] at later
    cases block : pointer.hasBlock with
    | false =>
        rw [block] at later
        have plain := block
        have plain' := sameBlock.symm.trans block
        simp only [hasBlock, Bool.or_eq_false_iff, Option.isSome_eq_false_iff,
          Option.isNone_iff_eq_none] at plain plain'
        exact ⟨⟨plain.1.trans plain'.1.symm, plain.2.trans plain'.2.symm⟩, later⟩
    | true =>
        rw [block] at later
        simp only [if_true, List.append_assoc, List.singleton_append] at later
        obtain ⟨sameLines, sameRest⟩ := append_mark_injective
          (blockEnd_notMem_blockLines pointer) (blockEnd_notMem_blockLines pointer') later
        exact ⟨blockLines_injective sameLines, sameRest⟩
  obtain ⟨⟨sameExclusive, sameDefault⟩, sameRest⟩ := sameInside
  refine ⟨sameName, ?_, sameRest⟩
  cases pointer
  cases pointer'
  simp_all

/-- A pointer whose name and type are words and whose default fills no further line. -/
structure IsPlain (name : Text) (pointer : Pointer) : Prop where
  name : IsWord name
  type : IsWord pointer.type
  default : ∀ value ∈ pointer.default, CodePoint.char '\n' ∉ value

instance {name : Text} {pointer : Pointer} : Decidable (IsPlain name pointer) :=
  decidable_of_iff (IsWord name ∧ IsWord pointer.type ∧
      ∀ value ∈ pointer.default, CodePoint.char '\n' ∉ value)
    ⟨fun ⟨name, type, default⟩ => ⟨name, type, default⟩,
      fun ⟨name, type, default⟩ => ⟨name, type, default⟩⟩

/-- A pointer of whose texts none is broken by a line feed. -/
structure IsUnbroken (name : Text) (pointer : Pointer) : Prop where
  name : CodePoint.char '\n' ∉ name
  type : CodePoint.char '\n' ∉ pointer.type
  default : ∀ value ∈ pointer.default, CodePoint.char '\n' ∉ value

instance {name : Text} {pointer : Pointer} : Decidable (IsUnbroken name pointer) :=
  decidable_of_iff (CodePoint.char '\n' ∉ name ∧ CodePoint.char '\n' ∉ pointer.type ∧
      ∀ value ∈ pointer.default, CodePoint.char '\n' ∉ value)
    ⟨fun ⟨name, type, default⟩ => ⟨name, type, default⟩,
      fun ⟨name, type, default⟩ => ⟨name, type, default⟩⟩

theorem IsPlain.isUnbroken {name : Text} {pointer : Pointer} (plain : IsPlain name pointer) :
    IsUnbroken name pointer :=
  ⟨plain.name.unbroken, plain.type.unbroken, plain.default⟩

theorem IsUnbroken.isLine_opening {name : Text} {pointer : Pointer}
    (unbroken : IsUnbroken name pointer) : IsLine (pointer.opening name) := by
  rw [opening_eq]
  apply isLine_modified unbroken.name
  have arrow : CodePoint.char '\n' ∉ ("-> " : Text) := by decide
  have ending : CodePoint.char '\n' ∉
      if pointer.hasBlock then (" \x7b" : Text) else (";" : Text) := by
    cases pointer.hasBlock <;> decide
  simp [arrow, unbroken.type, ending]

theorem IsUnbroken.isLine {name : Text} {pointer : Pointer} (unbroken : IsUnbroken name pointer) :
    ∀ line ∈ pointer.lines name, IsLine line := by
  intro line member
  rw [lines_eq] at member
  rcases List.mem_cons.mp member with rfl | later
  · exact unbroken.isLine_opening
  · split at later
    · rcases List.mem_append.mp later with inside | last
      · rcases List.mem_append.mp inside with constraint | written
        · split at constraint
          · rw [List.mem_singleton.mp constraint]
            exact ⟨by decide, by decide⟩
          · cases constraint
        · obtain ⟨value, given, rfl⟩ := List.mem_map.mp written
          have whole := unbroken.default value (Option.mem_toList.mp given)
          exact IsLine.append (IsLine.append ⟨by decide, by decide⟩ whole) (by decide)
      · rw [List.mem_singleton.mp last]
        exact ⟨by decide, by decide⟩
    · cases later

end Pointer

/-! ### Backlinks -/

namespace Backlink

theorem line_eq (name : Text) (backlink : Backlink) :
    backlink.line name = "    " ++ (modifiers (.of backlink.multi false) .link ++
      (name ++ CodePoint.char ' ' :: (":= " ++ (backlink.expression ++ ";")))) := by
  have becomes : (" := " : Text) = CodePoint.char ' ' :: (":= " : Text) := by decide
  unfold line
  rw [becomes]
  cases backlink.multi <;> simp [modifiers, Cardinality.of, PointerKind.keyword, Text.ofString]

/-- The line of a backlink shows its name and the backlink. -/
theorem line_injective {name name' : Text} {backlink backlink' : Backlink} (word : IsWord name)
    (word' : IsWord name') (same : backlink.line name = backlink'.line name') :
    name = name' ∧ backlink = backlink' := by
  rw [line_eq, line_eq] at same
  obtain ⟨sameCardinality, _, sameName, sameRest⟩ := modified_injective word word' same
  have sameExpression := List.append_cancel_right (List.append_cancel_left sameRest)
  refine ⟨sameName, ?_⟩
  obtain ⟨expression, multi⟩ := backlink
  obtain ⟨expression', multi'⟩ := backlink'
  cases multi <;> cases multi' <;> simp_all [Cardinality.of]

/-- A backlink whose name is a word and whose expression fills no further line. -/
structure IsPlain (name : Text) (backlink : Backlink) : Prop where
  name : IsWord name
  expression : CodePoint.char '\n' ∉ backlink.expression

instance {name : Text} {backlink : Backlink} : Decidable (IsPlain name backlink) :=
  decidable_of_iff (IsWord name ∧ CodePoint.char '\n' ∉ backlink.expression)
    ⟨fun ⟨name, expression⟩ => ⟨name, expression⟩, fun ⟨name, expression⟩ => ⟨name, expression⟩⟩

/-- A backlink of whose texts none is broken by a line feed. -/
structure IsUnbroken (name : Text) (backlink : Backlink) : Prop where
  name : CodePoint.char '\n' ∉ name
  expression : CodePoint.char '\n' ∉ backlink.expression

instance {name : Text} {backlink : Backlink} : Decidable (IsUnbroken name backlink) :=
  decidable_of_iff (CodePoint.char '\n' ∉ name ∧ CodePoint.char '\n' ∉ backlink.expression)
    ⟨fun ⟨name, expression⟩ => ⟨name, expression⟩, fun ⟨name, expression⟩ => ⟨name, expression⟩⟩

theorem IsPlain.isUnbroken {name : Text} {backlink : Backlink} (plain : IsPlain name backlink) :
    IsUnbroken name backlink :=
  ⟨plain.name.unbroken, plain.expression⟩

theorem IsUnbroken.isLine {name : Text} {backlink : Backlink}
    (unbroken : IsUnbroken name backlink) : IsLine (backlink.line name) := by
  rw [line_eq]
  apply isLine_modified unbroken.name
  have becomes : CodePoint.char '\n' ∉ (":= " : Text) := by decide
  have ending : CodePoint.char '\n' ∉ (";" : Text) := by decide
  simp [becomes, unbroken.expression, ending]

end Backlink

/-- No pointer begins with the line of a backlink. -/
theorem Pointer.opening_ne_line {name name' : Text} {pointer : Pointer} {backlink : Backlink}
    (word : IsWord name) (word' : IsWord name') :
    pointer.opening name ≠ backlink.line name' := by
  intro same
  rw [opening_eq, Backlink.line_eq] at same
  have arrow := (modified_injective word word' same).2.2.2
  cases arrow

end Esdl

end PrismaEsdl
