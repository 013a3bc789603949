import PrismaEsdl.Proofs.Json.Writing

/-!
What a JSON literal writes.

The inside of a literal is a row of parts, and each part is read as one code point: a character as
it is, a letter after a backslash, or the number of a code point after `\u` (`IsPart`). A literal
is decoded exactly if it has this form, and its content is that of its parts
(`decode?_eq_some_iff`). No part ends with a backslash that escapes what follows, so no mark inside
a literal closes it (`Writes.exists_isSealed`). The literal of a text writes the text
(`writes_encode`): only control characters are written by their numbers, so two halves of a
surrogate pair that stand side by side in a text stay apart.
-/

namespace PrismaEsdl.Json.Literal

/-! ### Parts -/

/-- What stands inside a literal for one code point, and the piece that is read from it. -/
inductive IsPart : Text → Piece → Prop where
  | plain {p : CodePoint} (printable : 0x20 ≤ p.value) (noMark : p ≠ .char '"')
      (noBackslash : p ≠ .char '\\') : IsPart [p] ⟨p, false⟩
  | letter {letter p : CodePoint} (known : escaped? letter = some p) :
      IsPart [.char '\\', letter] ⟨p, false⟩
  | number {a b c d p : CodePoint} (known : numbered? a b c d = some p) :
      IsPart [.char '\\', .char 'u', a, b, c, d] ⟨p, true⟩

/-- A row of such parts, and the pieces that are read from it. -/
inductive IsInside : Text → List Piece → Prop where
  | nil : IsInside [] []
  | cons {part rest : Text} {piece : Piece} {pieces : List Piece} (first : IsPart part piece)
      (later : IsInside rest pieces) : IsInside (part ++ rest) (piece :: pieces)

/-- A literal and its content. -/
def Writes (literal content : Text) : Prop :=
  ∃ inside pieces, literal = .char '"' :: (inside ++ [.char '"']) ∧ IsInside inside pieces ∧
    content = joined pieces

/-- A part is read before what follows it. -/
theorem IsPart.pieces?_append {part : Text} {piece : Piece} (isPart : IsPart part piece)
    (rest : Text) : pieces? (part ++ rest)
      = (pieces? rest).map fun found => (piece :: found.1, found.2) := by
  cases isPart with
  | @plain p printable noMark noBackslash =>
      have fine : ¬ (p.value < 0x20 ∨ p = .char '\\') := by
        rintro (control | backslash)
        · omega
        · exact noBackslash backslash
      rw [List.singleton_append, pieces?, if_neg fine]
      · exact noMark
      · exact fun _ _ _ _ _ backslash _ => noBackslash backslash
      · exact fun _ _ backslash _ => noBackslash backslash
  | letter known =>
      rw [List.cons_append, List.singleton_append, pieces?, known]
      · rfl
      -- The letter is not the one that a number follows.
      · rintro _ _ _ _ _ rfl _
        cases known
  | number known =>
      simp only [List.cons_append, List.nil_append, pieces?, known]
      rfl

/-- Where what follows a part is read as a row of parts up to the closing mark, so is the whole. -/
theorem IsPart.exists_isInside {part rest after : Text} {piece : Piece} {pieces : List Piece}
    (isPart : IsPart part piece)
    (found : ((pieces? rest).map fun (others, after) => (piece :: others, after))
      = some (pieces, after))
    (readLater : ∀ {others : List Piece}, pieces? rest = some (others, after) →
      ∃ inside, IsInside inside others ∧ rest = inside ++ .char '"' :: after) :
    ∃ inside, IsInside inside pieces ∧ part ++ rest = inside ++ .char '"' :: after := by
  obtain ⟨_, later, same⟩ := Option.map_eq_some_iff.mp found
  cases same
  obtain ⟨inside, row, rfl⟩ := readLater later
  exact ⟨part ++ inside, .cons isPart row, (List.append_assoc ..).symm⟩

/-- The pieces up to the closing mark are those of a row of parts. -/
theorem pieces?_eq_some_iff {t after : Text} {pieces : List Piece} :
    pieces? t = some (pieces, after) ↔
      ∃ inside, IsInside inside pieces ∧ t = inside ++ .char '"' :: after := by
  constructor
  · intro found
    fun_induction pieces? t generalizing pieces with
    | case1 => cases found
    | case2 rest =>
        cases found
        exact ⟨[], .nil, rfl⟩
    | case3 a b c d rest ih =>
        obtain ⟨p, known, found⟩ := Option.bind_eq_some_iff.mp found
        exact (IsPart.number known).exists_isInside found ih
    | case4 letter rest _ ih =>
        obtain ⟨p, known, found⟩ := Option.bind_eq_some_iff.mp found
        exact (IsPart.letter known).exists_isInside found ih
    | case5 => cases found
    | case6 p rest noMark _ _ fine ih =>
        obtain ⟨printable, noBackslash⟩ := not_or.mp fine
        have isPart := IsPart.plain (Nat.le_of_not_lt printable) noMark noBackslash
        exact isPart.exists_isInside found ih
  · rintro ⟨inside, row, rfl⟩
    induction row with
    | nil => rfl
    | cons first later ih =>
        rw [List.append_assoc, first.pieces?_append, ih]
        rfl

/-- A text is decoded exactly if it is a literal, to the content of the literal. -/
theorem decode?_eq_some_iff {literal content : Text} :
    decode? literal = some content ↔ Writes literal content := by
  constructor
  · intro decoded
    unfold decode? at decoded
    split at decoded
    · rename_i rest
      split at decoded
      · rename_i pieces found
        cases decoded
        obtain ⟨inside, row, rfl⟩ := pieces?_eq_some_iff.mp found
        exact ⟨inside, pieces, rfl, row, rfl⟩
      · cases decoded
    · cases decoded
  · rintro ⟨inside, pieces, rfl, row, rfl⟩
    have found : pieces? (inside ++ [.char '"']) = some (pieces, []) :=
      pieces?_eq_some_iff.mpr ⟨inside, row, rfl⟩
    simp only [decode?, found]

/-! ### Marks -/

/-- Whether the code point after a text is escaped: the text ends with a backslash that is not
escaped itself. -/
def escapesNext (t : Text) : Bool := t.foldl (fun escaped p => !escaped && p == .char '\\') false

/-- A text that can stand between two marks: it has no control character, each mark in it is
escaped, and it does not escape what follows it. -/
structure IsSealed (t : Text) : Prop where
  printable : ∀ p ∈ t, 0x20 ≤ p.value
  marks : ∀ before after, t = before ++ .char '"' :: after → escapesNext before = true
  closed : escapesNext t = false

theorem escapesNext_append {t u : Text} (closed : escapesNext t = false) :
    escapesNext (t ++ u) = escapesNext u := by
  unfold escapesNext at closed ⊢
  rw [List.foldl_append, closed]

theorem IsSealed.append {t u : Text} (first : IsSealed t) (later : IsSealed u) :
    IsSealed (t ++ u) := by
  refine ⟨?_, ?_, ?_⟩
  · intro p member
    rcases List.mem_append.mp member with left | right
    · exact first.printable p left
    · exact later.printable p right
  · intro before after same
    rcases List.append_eq_append_iff.mp same with ⟨between, rfl, rest⟩ | ⟨between, here, rest⟩
    · rw [escapesNext_append first.closed]
      exact later.marks between after rest
    · cases between with
      | nil =>
          rw [List.append_nil] at here
          rw [← here, ← List.append_nil t, escapesNext_append first.closed]
          exact later.marks [] after rest.symm
      | cons p between =>
          obtain ⟨rfl, -⟩ := List.cons.inj rest
          exact first.marks before between here
  · rw [escapesNext_append first.closed, later.closed]

/-- A hexadecimal digit can stand inside a literal as it is. -/
theorem plain_of_hexDigit? {p : CodePoint} {d : Nat} (digit : p.hexDigit? = some d) :
    0x20 ≤ p.value ∧ p ≠ .char '"' ∧ p ≠ .char '\\' := by
  refine ⟨?_, ?_, ?_⟩
  · cases p with
    | surrogate _ => cases digit
    | char c =>
        have controls : ∀ n < 0x20, (CodePoint.char (Char.ofNat n)).hexDigit? = none := by decide
        by_contra control
        have unread := controls c.toNat (Nat.lt_of_not_le control)
        rw [Char.ofNat_toNat, digit] at unread
        cases unread
  · rintro rfl
    cases digit
  · rintro rfl
    cases digit

/-- A letter after a backslash is printable. -/
theorem printable_of_escaped? {letter p : CodePoint} (known : escaped? letter = some p) :
    0x20 ≤ letter.value := by
  unfold escaped? at known
  split at known
  all_goals first
    | decide
    | cases known

/-- Where there is no mark, none has to be escaped. -/
theorem isSealed_of_unmarked {t : Text} (printable : ∀ p ∈ t, 0x20 ≤ p.value)
    (unmarked : CodePoint.char '"' ∉ t) (closed : escapesNext t = false) : IsSealed t := by
  refine ⟨printable, ?_, closed⟩
  rintro before after rfl
  exact absurd (by simp) unmarked

theorem IsPart.isSealed {part : Text} {piece : Piece} (isPart : IsPart part piece) :
    IsSealed part := by
  cases isPart with
  | plain printable noMark noBackslash =>
      apply isSealed_of_unmarked
      · simpa using printable
      · simpa using noMark.symm
      · simpa [escapesNext] using noBackslash
  | letter known =>
      refine ⟨?_, ?_, rfl⟩
      · have printable := printable_of_escaped? known
        simpa using ⟨by decide, printable⟩
      · intro before after same
        rcases before with - | ⟨p, - | ⟨q, before⟩⟩
        · cases same
        · obtain ⟨rfl, -⟩ := List.cons.inj same
          rfl
        · simp at same
  | @number a b c d _ known =>
      obtain ⟨n, digits, -⟩ := Option.bind_eq_some_iff.mp known
      have plain : ∀ p ∈ [CodePoint.char 'u', a, b, c, d],
          0x20 ≤ p.value ∧ p ≠ .char '"' ∧ p ≠ .char '\\' := by
        intro p member
        rcases List.mem_cons.mp member with rfl | member
        · decide
        · obtain ⟨value, digit⟩ := Text.hexDigit?_of_toNat?_eq_some digits p member
          exact plain_of_hexDigit? digit
      apply isSealed_of_unmarked
      · intro p member
        rcases List.mem_cons.mp member with rfl | member
        · decide
        · exact (plain p member).1
      · intro member
        rcases List.mem_cons.mp member with other | member
        · cases other
        · exact (plain _ member).2.1 rfl
      · have noBackslash := (plain d (by simp)).2.2
        simp [escapesNext, noBackslash]

theorem IsInside.isSealed {inside : Text} {pieces : List Piece} (row : IsInside inside pieces) :
    IsSealed inside := by
  induction row with
  | nil => exact ⟨nofun, by simp, rfl⟩
  | cons first later ih => exact first.isSealed.append ih

/-- A literal is closed by its last mark and by no other. -/
theorem Writes.exists_isSealed {literal content : Text} (writes : Writes literal content) :
    ∃ inside, literal = .char '"' :: (inside ++ [.char '"']) ∧ IsSealed inside := by
  obtain ⟨inside, pieces, same, row, -⟩ := writes
  exact ⟨inside, same, row.isSealed⟩

/-! ### The literal of a text -/

/-- A code point is written as a letter after a backslash, by its number, or as it is. -/
theorem encodePoint_cases (p : CodePoint) :
    (∃ letter, encodePoint p = [.char '\\', letter] ∧ escaped? letter = some p) ∨
      (p.value < 0x20 ∧ encodePoint p = numbered p) ∨
      (0x20 ≤ p.value ∧ p ≠ .char '"' ∧ p ≠ .char '\\' ∧ encodePoint p = [p]) := by
  unfold encodePoint
  split
  any_goals exact Or.inl ⟨_, rfl, rfl⟩
  next noMark noBackslash _ _ _ _ _ =>
    split
    next control => exact Or.inr (Or.inl ⟨control, rfl⟩)
    next printable => exact Or.inr (Or.inr ⟨by omega, noMark, noBackslash, rfl⟩)

/-- The number of a code point is read as the code point. -/
theorem isPart_numbered {p : CodePoint} (small : p.value < 0x10000) :
    IsPart (numbered p) ⟨p, true⟩ := by
  have value := Text.toNat?_ofNatHex 4 p.value
  have length := Text.length_ofNatHex small
  unfold numbered
  match digits : Text.ofNatHex 4 p.value, length with
  | [a, b, c, d], _ =>
      rw [digits] at value
      refine .number ?_
      rw [numbered?, value, Option.bind_some, CodePoint.ofNat?_value]

/-- A code point is written as one part, by its number only if it is a control character. -/
theorem exists_isPart_encodePoint (p : CodePoint) :
    ∃ numbered, IsPart (encodePoint p) ⟨p, numbered⟩ ∧ (numbered = true → p.value < 0x20) := by
  rcases encodePoint_cases p with ⟨letter, written, known⟩ | ⟨control, written⟩ |
    ⟨printable, noMark, noBackslash, written⟩
  · exact ⟨false, written ▸ .letter known, nofun⟩
  · exact ⟨true, written ▸ isPart_numbered (by omega), fun _ => control⟩
  · exact ⟨false, written ▸ .plain printable noMark noBackslash, nofun⟩

/-- A text that is written point by point is read as its code points. -/
theorem exists_isInside_flatMap_encodePoint (t : Text) :
    ∃ pieces, IsInside (t.flatMap encodePoint) pieces ∧ pieces.map Piece.point = t ∧
      ∀ piece ∈ pieces, piece.numbered = true → piece.point.value < 0x20 := by
  induction t with
  | nil => exact ⟨[], .nil, rfl, nofun⟩
  | cons p rest ih =>
      obtain ⟨pieces, row, points, controls⟩ := ih
      obtain ⟨numbered, part, control⟩ := exists_isPart_encodePoint p
      refine ⟨⟨p, numbered⟩ :: pieces, .cons part row, by rw [List.map_cons, points], ?_⟩
      exact List.forall_mem_cons.mpr ⟨control, controls⟩

/-- Only a surrogate is half of a pair. -/
theorem paired?_eq_none {p q : CodePoint} (whole : p.value < 0xD800) : paired? p q = none := by
  cases p with
  | char c => rfl
  | surrogate offset => exact absurd whole (by simp [CodePoint.value])

/-- Where no half of a surrogate pair was written by its number, nothing is joined. -/
theorem joined_eq_map {pieces : List Piece}
    (whole : ∀ piece ∈ pieces, piece.numbered = true → piece.point.value < 0xD800) :
    joined pieces = pieces.map Piece.point := by
  fun_induction joined pieces with
  | case1 => rfl
  | case2 piece => rfl
  | case3 piece next rest p pair ih =>
      split at pair
      · rename_i numbered
        have small := whole piece List.mem_cons_self (Bool.and_eq_true_iff.mp numbered).1
        rw [paired?_eq_none small] at pair
        cases pair
      · cases pair
  | case4 piece next rest single ih =>
      rw [ih fun other member => whole other (List.mem_cons_of_mem _ member)]
      rfl

/-- The literal of a text writes the text. -/
theorem writes_encode (t : Text) : Writes (encode t) t := by
  obtain ⟨pieces, row, points, controls⟩ := exists_isInside_flatMap_encodePoint t
  have whole : joined pieces = pieces.map Piece.point :=
    joined_eq_map fun piece member numbered =>
      Nat.lt_trans (controls piece member numbered) (by decide)
  exact ⟨_, pieces, rfl, row, by rw [whole, points]⟩

theorem decode?_encode (t : Text) : decode? (encode t) = some t :=
  decode?_eq_some_iff.mpr (writes_encode t)

end PrismaEsdl.Json.Literal
