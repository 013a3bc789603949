import PrismaEsdl.Proofs.Yaml.Cursor

/-!
Plain scalars of one word in a text that comes in as a whole: a scalar that is followed by the mark
of a collection, on the same line or at the beginning of the next one, ends there (`read_word`).
-/

namespace PrismaEsdl.Yaml.Plain

/-- Whether a code point may stand anywhere in a word. -/
def IsPart (p : CodePoint) : Prop :=
  isBlank p = false ∧ isBreak p = false ∧ p ≠ .char ':' ∧ p.isAmong ",?[]\x7b\x7d" = false

instance (p : CodePoint) : Decidable (IsPart p) := inferInstanceAs (Decidable (_ ∧ _))

/-- Whether a text inside of brackets has a mark at its front, or nothing but spaces before a
closing bracket on the next line. -/
inductive StartsWithMark : Text → Prop where
  | here {q : Char} (mark : q ∈ [',', ']', '\x7d']) (rest : Text) : StartsWithMark (.char q :: rest)
  | below (n : Nat) {q : Char} (mark : q ∈ [']', '\x7d']) (rest : Text) :
      StartsWithMark (.char '\n' :: (List.replicate n (.char ' ') ++ .char q :: rest))

/-- Whether a scalar cannot go on with a text. -/
def Ends (inFlow : Bool) (t : Text) : Prop := t = [] ∨ inFlow = true ∧ StartsWithMark t

variable {inFlow : Bool} {word rest : Text}

theorem wordLength_eq (parts : ∀ p ∈ word, IsPart p) (ends : wordLength false inFlow rest = 0) :
    wordLength false inFlow (word ++ rest) = word.length := by
  induction word with
  | nil => exact ends
  | cons p word ih =>
    obtain ⟨noBlank, noBreak, noColon, noMark⟩ := parts p List.mem_cons_self
    rw [List.cons_append, wordLength, ih fun q member => parts q (List.mem_cons_of_mem _ member)]
    simp [noBlank, noBreak, noColon, noMark]

theorem mark_solid {q : Char} (mark : q ∈ [',', ']', '\x7d']) :
    isBreak (.char q) = false ∧ isBlank (.char q) = false ∧ CodePoint.char q ≠ .char '-' ∧
      CodePoint.char q ≠ .char '.' ∧ CodePoint.char q ≠ .char '#' := by
  simp only [List.mem_cons, List.not_mem_nil, or_false] at mark
  rcases mark with rfl | rfl | rfl <;> decide

theorem StartsWithMark.head_ne_space {t : Text} (mark : StartsWithMark t) :
    ∀ p ∈ t.head?, p ≠ .char ' ' := by
  cases mark with
  | here mark rest =>
    rintro p ⟨⟩ same
    have := (mark_solid mark).2.1
    rw [same] at this
    cases this
  | below n mark rest =>
    rintro p ⟨⟩ same
    cases same

theorem wordLength_of_mark {q : Char} (mark : q ∈ [',', ']', '\x7d']) (rest : Text) :
    wordLength false true (.char q :: rest) = 0 := by
  simp only [List.mem_cons, List.not_mem_nil, or_false] at mark
  rcases mark with rfl | rfl | rfl <;> rfl

theorem wordLength_eq_zero (ends : Ends inFlow rest) : wordLength false inFlow rest = 0 := by
  rcases ends with rfl | ⟨rfl, mark | -⟩
  · rfl
  · exact wordLength_of_mark mark _
  · rfl

/-- The lines after the end of a scalar: nothing but spaces is passed before the mark. -/
theorem emptyLines_of_mark {q : Char} (mark : q ∈ [',', ']', '\x7d']) {n : Nat} {c : Cursor}
    (start : c.rest = List.replicate n (.char ' ') ++ .char q :: rest) (fuel : Nat) :
    (emptyLines false fuel c = (none, c)) ∨
      ∃ after, emptyLines false fuel c = (some [], after) ∧ after.rest = .char q :: rest := by
  rcases fuel with - | fuel
  · exact Or.inl rfl
  obtain ⟨noBreak, noBlank, -⟩ := mark_solid mark
  have spaces : c.skipSpaces.rest = .char q :: rest := by
    rw [Cursor.skipSpaces, Cursor.rest_skipWhile, start]
    refine Text.dropWhile_append (fun p member => ?_) ?_
    · rw [List.eq_of_mem_replicate member]
      rfl
    · rintro p ⟨⟩
      rw [beq_eq_false_iff_ne]
      rintro same
      rw [same] at noBlank
      cases noBlank
  have unbroken : c.skipSpaces.lineBreak? = none := by
    refine Cursor.lineBreak?_eq_none ?_
    rw [spaces]
    rintro p ⟨⟩
    exact noBreak
  rw [emptyLines, Bool.false_and, if_neg Bool.false_ne_true]
  split
  · exact Or.inl rfl
  · simp only [unbroken]
    exact Or.inr ⟨_, rfl, spaces⟩

/-- After the last word of a scalar there is either nothing or the end of the line, and then no
other word. -/
theorem gap_of_ends {c : Cursor} (ends : Ends inFlow c.rest) (fuel : Nat) :
    skipped (gap false fuel c).cursor.rest = skipped c.rest ∧
      (gap false fuel c).cursor.rest.length ≤ c.rest.length ∧
      ((gap false fuel c).kept = [] ∨
        wordLength false inFlow (gap false fuel c).cursor.rest = 0) := by
  have noSpace : ∀ p ∈ c.rest.head?, p ≠ .char ' ' := by
    rcases ends with nothing | ⟨-, mark⟩
    · simp [nothing]
    · exact mark.head_ne_space
  have noBlanks : c.takeWhile (· == .char ' ') = ([], c) := by
    have : c.rest.takeWhile (· == .char ' ') = [] := by
      cases start : c.rest with
      | nil => rfl
      | cons p rest => simp [noSpace p (by rw [start]; rfl)]
    rw [Cursor.takeWhile, this]
    rfl
  by_cases unbroken : c.lineBreak? = none
  · simp only [gap, noBlanks, unbroken]
    exact ⟨trivial, le_rfl, Or.inl trivial⟩
  rcases ends with nothing | ⟨rfl, mark⟩
  · exact absurd (Cursor.lineBreak?_eq_none (by simp [nothing])) unbroken
  generalize start : c.rest = t at mark
  cases mark with
  | here mark rest =>
    refine absurd (Cursor.lineBreak?_eq_none ?_) unbroken
    rw [start]
    rintro p ⟨⟩
    exact (mark_solid mark).1
  | @below n q mark rest =>
    have mark : q ∈ [',', ']', '\x7d'] := List.mem_cons_of_mem _ mark
    have feed : c.next.rest = List.replicate n (.char ' ') ++ .char q :: rest := by
      rw [Cursor.rest_next, start, List.tail_cons]
    have skip : skipped ((.char '\n' :: List.replicate n (.char ' ')) ++ .char q :: rest)
        = skipped (.char q :: rest) :=
      skipped_append fun p member => by
        rcases List.mem_cons.mp member with rfl | member
        · rfl
        · exact List.eq_of_mem_replicate member ▸ rfl
    rw [List.cons_append] at skip
    rcases emptyLines_of_mark mark feed fuel with stops | ⟨after, goesOn, here⟩
    · simp only [gap, noBlanks, Cursor.lineBreak?_of_feed start, stops, feed]
      exact ⟨rfl, by simp, Or.inl trivial⟩
    · simp only [gap, noBlanks, Cursor.lineBreak?_of_feed start, goesOn, here, skip]
      exact ⟨trivial, by simp; omega, Or.inr (wordLength_of_mark mark rest)⟩

/-- A word before a mark is a whole scalar. -/
theorem read_word (column : Nat) {bound : Nat} {c : Cursor} (start : c.rest = word ++ rest)
    (parts : ∀ p ∈ word, IsPart p) (ends : Ends inFlow rest) (enough : 0 < bound) :
    ∃ endsLine after, read false inFlow column bound c = ⟨word, endsLine, after⟩ ∧
      skipped after.rest = skipped rest ∧ after.rest.length ≤ rest.length := by
  obtain ⟨fuel, rfl⟩ := Nat.exists_eq_succ_of_ne_zero enough.ne'
  have length := wordLength_eq parts (wordLength_eq_zero ends)
  have after : (c.advance word.length).rest = rest := Cursor.rest_advance_append start
  rw [← after] at ends
  obtain ⟨same, shorter, stops⟩ := gap_of_ends ends fuel
  rw [after] at same shorter
  refine ⟨(gap false fuel (c.advance word.length)).endsLine,
    (gap false fuel (c.advance word.length)).cursor, ?_, same, shorter⟩
  rw [read, words, start, length, List.take_left]
  dsimp only
  rw [if_neg]
  rintro goesOn
  rcases stops with none | none <;> simp [none] at goesOn

end PrismaEsdl.Yaml.Plain
