import PrismaEsdl.Proofs.Decimal.Written
import PrismaEsdl.Proofs.Text.Separated
import PrismaEsdl.Yaml.Scalar

/-!
What written numbers stand for where they are plain scalars.

An integer stands for itself (`value_ofInt`). A number with a fraction stands for itself if there is
a point in its text; without one, as in `1e+16`, the scalar is a text (`value_float`).
-/

namespace PrismaEsdl

namespace Yaml.Scalar

/-! ### Numbers and words -/

section

variable {t : Text} (numeral : t.IsNumeral) (negative : Bool)

include numeral

@[simp] theorem unsigned_minus_append : unsigned (Binary64.minus negative ++ t) = t :=
  congrArg Prod.snd (Text.splitSign_minus_append numeral negative)

/-- No word begins like a number. -/
theorem contains_eq_false {words : List Text}
    (plain : words.all (fun word => !startsWith (·.isAmong "-0123456789") word) = true) :
    words.contains (Binary64.minus negative ++ t) = false := by
  have starts : startsWith (·.isAmong "-0123456789") (Binary64.minus negative ++ t) = true := by
    cases negative with
    | true => rfl
    | false =>
      obtain ⟨p, rest, rfl, digit⟩ := numeral.startsWithDigit
      exact CodePoint.of_isDigit (·.isAmong "-0123456789") digit (by decide)
  by_contra found
  have member := List.contains_iff_mem.mp (Bool.not_eq_false _ ▸ found)
  simpa [starts] using List.all_eq_true.mp plain _ member

theorem ne_word {word : Text} (plain : startsWith (·.isAmong "-0123456789") word = false) :
    Binary64.minus negative ++ t ≠ word := by
  have others : [word].contains (Binary64.minus negative ++ t) = false :=
    contains_eq_false numeral negative (by simp [plain])
  simpa using others

theorem kind_eq_wordKind :
    kind (Binary64.minus negative ++ t) = wordKind (Binary64.minus negative ++ t) := by
  have numeric := Text.isNumeric_minus_append numeral negative
  have last : (Binary64.minus negative ++ t).getLast? ≠ some (.char '\n') := fun same =>
    numeric.not_mem rfl (List.mem_of_getLast? same)
  rw [kind, if_neg (ne_word numeral negative rfl), Text.withoutLastBreak, if_neg last]

theorem withoutUnderscores_eq :
    withoutUnderscores (Binary64.minus negative ++ t) = Binary64.minus negative ++ t := by
  refine List.filter_eq_self.mpr fun p member => bne_iff_ne.mpr ?_
  rintro rfl
  exact (Text.isNumeric_minus_append numeral negative).not_mem rfl member

theorem bareFloat_eq : bareFloat (Binary64.minus negative ++ t) = Binary64.minus negative ++ t := by
  rw [bareFloat, withoutUnderscores_eq numeral,
    (Text.isNumeric_minus_append numeral negative).lowerAscii]

end

/-! ### Integers -/

theorem isWhole_of_isDigits {t : Text} (nonempty : t ≠ []) (digits : t.IsDigits) :
    isWhole t = true := by
  obtain ⟨p, rest, rfl⟩ := List.exists_cons_of_ne_nil nonempty
  rw [isWhole, digits p List.mem_cons_self, Bool.true_and, List.all_eq_true]
  intro q member
  exact CodePoint.of_isDigit (·.isAmong "0123456789_") (digits q (List.mem_cons_of_mem _ member))
    (by decide)

/-- A numeral without a point is no number with a fraction. -/
theorem isFloat_eq_false {t : Text} (numeral : t.IsNumeral) (pointless : .char '.' ∉ t)
    (negative : Bool) : isFloat (Binary64.minus negative ++ t) = false := by
  have absent : ∀ p ∈ Binary64.minus negative ++ t, (p != .char '.') = true := by
    intro p member
    rw [bne_iff_ne]
    rintro rfl
    rcases List.mem_append.mp member with sign | digit
    · cases negative <;> simp [Binary64.minus, Text.ofString] at sign
    · exact pointless digit
  have whole : (Binary64.minus negative ++ t).span (· != .char '.')
      = (Binary64.minus negative ++ t, []) := by
    have ends : ∀ p ∈ ([] : Text).head?, (p != .char '.') = false := by simp
    have := Text.span_append absent ends
    rwa [List.append_nil] at this
  have fraction : isFraction (Binary64.minus negative ++ t) = false := by
    rw [isFraction, whole]
    generalize Binary64.minus negative ++ t = u
    cases u <;> rfl
  have infinite : infinityWords.contains (unsigned (Binary64.minus negative ++ t)) = false := by
    rw [unsigned_minus_append numeral]
    exact contains_eq_false numeral false (by decide)
  rw [isFloat, fraction, infinite, contains_eq_false numeral negative (by decide)]
  rfl

theorem sexagesimalParts_eq {t : Text} (numeral : t.IsNumeral) : sexagesimalParts t = [t] :=
  Text.split_eq_singleton (numeral.numeric.not_mem rfl)

theorem ofInt_eq (i : Int) :
    Text.ofInt i = Binary64.minus (decide (i < 0)) ++ Text.ofNat i.natAbs := by
  by_cases negative : i < 0
  · simp [Text.ofInt, negative, Binary64.minus, Text.ofString]
  · simp [Text.ofInt, negative, Binary64.minus, Text.ofString]

theorem integer?_ofNat {n : Nat} (showable : n < Nat.pow 10 Text.maxDigits) :
    Text.integer? 10 (Text.ofNat n) = some n := by
  have numeral := Text.IsNumeral.ofNat n
  have unmarked : Text.withoutBaseMark 10 (Text.ofNat n) = Text.ofNat n := by
    unfold Text.withoutBaseMark
    split
    next same => simp [CodePoint.isAmong_iff, same]
    next => rfl
  have short : ¬ Text.maxDigits < (Text.ofNat n).length :=
    not_lt.mpr (Text.length_ofNat_le (by decide) showable)
  simp [Text.integer?, numeral.bareNumber, numeral.splitSign, unmarked, Text.ofNat_ne_nil, short]

theorem magnitude_ofNat {n : Nat} (showable : n < Nat.pow 10 Text.maxDigits) :
    magnitude (Text.ofNat n) = .ok n := by
  rcases Nat.eq_zero_or_pos n with rfl | positive
  · rfl
  · have head := Text.ofNat_head_ne_zero positive
    have parts := sexagesimalParts_eq (Text.IsNumeral.ofNat n)
    have integer := integer?_ofNat showable
    have nonempty := Text.ofNat_ne_nil n
    generalize Text.ofNat n = t at head parts integer nonempty ⊢
    unfold magnitude
    split
    · exact absurd rfl nonempty
    · simp at head
    · simp at head
    · simp at head
    · simp at head
    · simp [parts, integer, orInvalid]

theorem isInteger_minus_append (n : Nat) (negative : Bool) :
    isInteger (Binary64.minus negative ++ Text.ofNat n) = true := by
  rw [isInteger, unsigned_minus_append (Text.IsNumeral.ofNat n)]
  rcases Nat.eq_zero_or_pos n with rfl | positive
  · rfl
  · have head := Text.ofNat_head_ne_zero positive
    have whole := isWhole_of_isDigits (Text.ofNat_ne_nil n) (Text.isDigits_ofNat n)
    generalize Text.ofNat n = t at head whole ⊢
    split
    · rfl
    · simp at head
    · simp at head
    · simp at head
    · rw [whole, Bool.true_or]

theorem kind_ofInt (i : Int) : kind (Text.ofInt i) = .int := by
  have numeral := Text.IsNumeral.ofNat i.natAbs
  have pointless : .char '.' ∉ Text.ofNat i.natAbs := fun member => by
    cases Text.isDigits_ofNat i.natAbs _ member
  rw [ofInt_eq, kind_eq_wordKind numeral, wordKind, contains_eq_false numeral _ (by decide),
    isFloat_eq_false numeral pointless, isInteger_minus_append]
  rfl

theorem int_ofInt {i : Int} (showable : Text.isShowable i = true) : int (Text.ofInt i) = .ok i := by
  have numeral := Text.IsNumeral.ofNat i.natAbs
  have absolute : magnitude (Text.ofNat i.natAbs) = .ok i.natAbs :=
    magnitude_ofNat (by simpa [Text.isShowable] using showable)
  clear showable
  rw [int, ofInt_eq, withoutUnderscores_eq numeral, Text.splitSign_minus_append numeral]
  simp only [absolute]
  by_cases negative : i < 0
  · simp [negative, abs_of_neg, bind, Except.bind, pure, Except.pure]
  · simp [negative, abs_of_nonneg (not_lt.mp negative), bind, Except.bind, pure, Except.pure]

/-- An integer that can be shown stands for itself. -/
theorem value_ofInt {i : Int} (showable : Text.isShowable i = true) :
    value (kind (Text.ofInt i)) (Text.ofInt i) = .ok (.int i) := by
  rw [kind_ofInt, value, int_ofInt showable]
  rfl

/-! ### Numbers with a fraction -/

theorem isExponent_exponentPart (w : Pointed) : isExponent w.exponentPart = true := by
  unfold Pointed.exponentPart
  cases w.exponent with
  | none => rfl
  | some x =>
    have digits : isMadeOf "0123456789" (Text.padded 2 (Text.ofNat x.natAbs)) = true := by
      rw [isMadeOf, Bool.and_eq_true]
      constructor
      · simp [Text.padded, Text.ofNat_ne_nil]
      · rw [List.all_eq_true]
        intro p member
        refine CodePoint.of_isDigit (·.isAmong "0123456789") ?_ (by decide)
        rcases List.mem_append.mp member with zero | digit
        · exact Text.isDigits_zeros _ p zero
        · exact Text.isDigits_ofNat _ p digit
    rw [Option.elim, exponentText, isExponent, digits]
    by_cases negative : x < 0
    · simp [negative, CodePoint.isAmong]
    · simp [negative, CodePoint.isAmong]

/-- What is written with a point is a number with a fraction. -/
theorem isFraction_toText (w : Pointed) (negative : Bool) :
    isFraction (Binary64.minus negative ++ w.toText) = true := by
  have wholeNumeral := Text.IsNumeral.of_digits w.whole_ne_nil w.whole_digits
  have whole : (Binary64.minus negative ++ w.toText).span (· != .char '.')
      = (Binary64.minus negative ++ w.whole, .char '.' :: (w.fraction ++ w.exponentPart)) := by
    rw [Pointed.toText, List.append_assoc, ← List.append_assoc]
    refine Text.span_append (fun p member => ?_) (by rintro p ⟨⟩; rfl)
    rcases List.mem_append.mp member with sign | digit
    · cases negative with
      | true => exact List.mem_singleton.mp sign ▸ rfl
      | false => cases sign
    · exact CodePoint.of_isDigit (· != .char '.') (w.whole_digits p digit) (by decide)
  have tail : (w.fraction ++ w.exponentPart).dropWhile (·.isAmong "0123456789_")
      = w.exponentPart := by
    refine Text.dropWhile_append (fun p member => ?_) ?_
    · exact CodePoint.of_isDigit (·.isAmong "0123456789_") (w.fraction_digits p member) (by decide)
    · unfold Pointed.exponentPart
      cases w.exponent with
      | none => simp
      | some x =>
        rintro p ⟨⟩
        rfl
  have nonempty : Binary64.minus negative ++ w.whole ≠ [] := by simp [w.whole_ne_nil]
  obtain ⟨p, rest, same⟩ := List.exists_cons_of_ne_nil nonempty
  rw [isFraction, whole, same]
  simp only [← same, tail, unsigned_minus_append wholeNumeral,
    isWhole_of_isDigits w.whole_ne_nil w.whole_digits, isExponent_exponentPart, Bool.and_self,
    Bool.true_or]

theorem kind_toText (w : Pointed) (negative : Bool) :
    kind (Binary64.minus negative ++ w.toText) = .float := by
  have numeral := w.isNumeral_toText
  rw [kind_eq_wordKind numeral, wordKind, contains_eq_false numeral _ (by decide), isFloat,
    isFraction_toText]
  rfl

theorem float_of_ofText? {t : Text} (numeral : t.IsNumeral) {x : Binary64}
    (read : Binary64.ofText? t = some x) (negative : Bool) :
    float (Binary64.minus negative ++ t) = .ok (if negative then x.negate else x) := by
  obtain ⟨p, rest, same, _⟩ := numeral.startsWithDigit
  have nonempty : (Binary64.minus negative ++ t).isEmpty = false := by simp [same]
  have infinite : t ≠ ".inf" := ne_word numeral false rfl
  have noNumber : t ≠ ".nan" := ne_word numeral false rfl
  have magnitude : floatMagnitude t = .ok x := by
    simp [floatMagnitude, infinite, noNumber, sexagesimalParts_eq numeral, read]
  rw [float, bareFloat_eq numeral]
  simp only [nonempty, Text.splitSign_minus_append numeral, magnitude]
  rfl

/-! ### Numbers without a point -/

/-- A digit with an exponent is a text. -/
theorem kind_exponentText {p : CodePoint} (digit : p.isDigit = true) (x : Int) (negative : Bool) :
    kind (Binary64.minus negative ++ p :: exponentText x) = .text := by
  have numeral := isNumeral_exponentText digit x
  have parts := sexagesimalParts_eq numeral
  have noInteger : isInteger (Binary64.minus negative ++ p :: exponentText x) = false := by
    have noWhole : isWhole (p :: exponentText x) = false := by
      rw [isWhole, digit]
      rfl
    have noSexagesimal : isSexagesimal (p :: exponentText x) = false := by
      rw [isSexagesimal, ← sexagesimalParts, parts]
      simp
    rw [isInteger, unsigned_minus_append numeral]
    split
    next same => cases same
    next same => cases (List.cons.inj (List.cons.inj same).2).1
    next same => cases (List.cons.inj (List.cons.inj same).2).1
    next same =>
      rw [← (List.cons.inj same).2]
      rfl
    next => rw [noWhole, noSexagesimal, Bool.or_self]
  have noTimestamp : isTimestamp (Binary64.minus negative ++ p :: exponentText x) = false := by
    obtain ⟨d, small, rfl⟩ := CodePoint.isDigit_iff.mp digit
    cases negative with
    | true => rfl
    | false => interval_cases d <;> rfl
  have merge : Binary64.minus negative ++ p :: exponentText x ≠ "<<" := ne_word numeral negative rfl
  have whole : Binary64.minus negative ++ p :: exponentText x ≠ "=" := ne_word numeral negative rfl
  rw [kind_eq_wordKind numeral, wordKind, contains_eq_false numeral _ (by decide),
    isFloat_eq_false numeral (point_not_mem_exponentText digit x), noInteger,
    contains_eq_false numeral _ (by decide), noTimestamp, contains_eq_false numeral _ (by decide)]
  simp [merge, whole]

/-- A number stands for itself if its text has a point, else for the text. -/
theorem value_toText {x : Binary64} (canonical : x.IsCanonical) :
    value (kind (x.toText .plain)) (x.toText .plain) = .ok
      (if .char '.' ∈ x.toText .plain then .float x else .text (x.toText .plain)) := by
  obtain ⟨negative, ⟨w, written, y, read, same⟩ | ⟨p, n, digit, written⟩⟩ :=
    Binary64.toText_plain canonical
  · have point : .char '.' ∈ Binary64.minus negative ++ w.toText := by
      simp [Pointed.toText]
    rw [written, if_pos point, kind_toText, value, float_of_ofText? w.isNumeral_toText read, same]
    rfl
  · have pointless : .char '.' ∉ Binary64.minus negative ++ p :: exponentText n := by
      intro member
      rcases List.mem_append.mp member with sign | member
      · cases negative with
        | true => cases List.mem_singleton.mp sign
        | false => cases sign
      · exact point_not_mem_exponentText digit n member
    rw [written, if_neg pointless, kind_exponentText digit, value]

end Yaml.Scalar

end PrismaEsdl
