import Mathlib.Data.List.TakeWhile
import PrismaEsdl.Decimal.Written
import PrismaEsdl.Proofs.Decimal.Shortest
import PrismaEsdl.Proofs.Text.Digits

/-!
Written numbers are read again.

A positive number is written with a point between digits, or as one digit with an exponent
(`Decimal.toText_plain`). What has a point is read as the number it was written for
(`Binary64.toText_plain`).
-/

namespace PrismaEsdl

/-- The exponent of a number as it is written: its sign, and at least two digits. -/
def exponentText (x : Int) : Text :=
  .char 'e' :: .char (if x < 0 then '-' else '+') :: Text.padded 2 (Text.ofNat x.natAbs)

/-- A number that is written with a point: the digits on both sides of it, and an exponent. -/
structure Pointed where
  whole : Text
  fraction : Text
  exponent : Option Int
  whole_ne_nil : whole ≠ []
  fraction_ne_nil : fraction ≠ []
  whole_digits : Text.IsDigits whole
  fraction_digits : Text.IsDigits fraction

namespace Pointed

def exponentPart (w : Pointed) : Text := w.exponent.elim [] exponentText

def toText (w : Pointed) : Text := w.whole ++ .char '.' :: w.fraction ++ w.exponentPart

/-- Whether a number is the one that is written. -/
def Writes (w : Pointed) (q : ℚ) : Prop :=
  ∃ n, Text.toNat? 10 (w.whole ++ w.fraction) = some n ∧
    q = n * 10 ^ (w.exponent.getD 0 - w.fraction.length)

end Pointed

namespace Text

/-- A numeral after its sign is split off is what was signed. -/
theorem splitSign_minus_append {t : Text} (numeral : t.IsNumeral) (negative : Bool) :
    splitSign (Binary64.minus negative ++ t) = (negative, t) := by
  cases negative with
  | true => rfl
  | false => exact numeral.splitSign

theorem isNumeric_minus_append {t : Text} (numeral : t.IsNumeral) (negative : Bool) :
    IsNumeric (Binary64.minus negative ++ t) := by
  cases negative with
  | true =>
    intro p member
    rcases List.mem_cons.mp member with rfl | member
    · rfl
    · exact numeral.numeric p member
  | false => exact numeral.numeric

end Text

namespace Decimal

/-! ### Layout -/

/-- Zeros at the end of digits are all that is left out. -/
theorem exists_eq_append_zeros (t : Text) :
    ∃ k, t = (t.reverse.dropWhile (· == .char '0')).reverse ++ Text.zeros k := by
  refine ⟨(t.reverse.takeWhile (· == .char '0')).length, ?_⟩
  have zeros : t.reverse.takeWhile (· == .char '0')
      = Text.zeros (t.reverse.takeWhile (· == .char '0')).length := by
    refine List.eq_replicate_iff.mpr ⟨rfl, fun p member => ?_⟩
    simpa using List.mem_takeWhile_imp member
  rw [← List.reverse_inj, List.reverse_append, List.reverse_reverse, Text.zeros,
    List.reverse_replicate, ← Text.zeros, ← zeros, List.takeWhile_append_dropWhile]

section

variable {t : Text} {n : Nat}

/-- A number below one is written with zeros between the point and its digits. -/
theorem exists_pointed_of_neg (nonempty : t ≠ []) (digits : Text.IsDigits t)
    (known : Text.toNat? 10 t = some n) {leading : Int} (small : leading < 0) :
    ∃ w : Pointed, "0." ++ Text.zeros (-leading - 1).toNat ++ t = w.toText ∧
      w.Writes (n * 10 ^ (leading + 1 - t.length)) := by
  refine ⟨⟨[.char '0'], Text.zeros (-leading - 1).toNat ++ t, none, by simp, by simp [nonempty],
    by simp [Text.IsDigits]; rfl, ?_⟩, ?_, n, ?_, ?_⟩
  · intro p member
    rcases List.mem_append.mp member with zero | digit
    · exact Text.isDigits_zeros _ p zero
    · exact digits p digit
  · simp [Pointed.toText, Pointed.exponentPart]
    rfl
  · exact (Text.toNat?_zeros_append (by decide) ((-leading - 1).toNat + 1) t).trans known
  · congr 2
    simp [Text.zeros]
    omega

/-- A whole number is written with zeros up to the point and one behind it. -/
theorem exists_pointed_of_short (nonempty : t ≠ []) (digits : Text.IsDigits t)
    (known : Text.toNat? 10 t = some n) {leading : Int} (whole : ¬ leading < 0)
    (short : t.length ≤ leading.toNat + 1) :
    ∃ w : Pointed, t ++ Text.zeros (leading.toNat + 1 - t.length) ++ NumberStyle.plain.wholeSuffix
        = w.toText ∧ w.Writes (n * 10 ^ (leading + 1 - t.length)) := by
  obtain ⟨k, room⟩ : ∃ k : Nat, leading.toNat + 1 = t.length + k :=
    ⟨leading.toNat + 1 - t.length, by omega⟩
  refine ⟨⟨t ++ Text.zeros k, [.char '0'], none, by simp [nonempty], by simp, ?_,
    by simp [Text.IsDigits]; rfl⟩, ?_, n * 10 ^ (k + 1), ?_, ?_⟩
  · intro p member
    rcases List.mem_append.mp member with digit | zero
    · exact digits p digit
    · exact Text.isDigits_zeros _ p zero
  · rw [room, Nat.add_sub_cancel_left]
    simp [Pointed.toText, Pointed.exponentPart]
    rfl
  · have := Text.toNat?_append_zeros known (k + 1)
    rwa [Text.zeros, List.replicate_succ', ← List.append_assoc] at this
  · have : leading + 1 - t.length = (k + 1 : Nat) + (0 - 1 : Int) := by
      push_cast
      omega
    rw [this, zpow_add₀ (by norm_num), zpow_natCast]
    push_cast
    simp [mul_assoc]

/-- Any other number is written with the point between its digits. -/
theorem exists_pointed_of_long (nonempty : t ≠ []) (digits : Text.IsDigits t)
    (known : Text.toNat? 10 t = some n) {leading : Int} (whole : ¬ leading < 0)
    (long : ¬ t.length ≤ leading.toNat + 1) :
    ∃ w : Pointed, t.take (leading.toNat + 1) ++ "." ++ t.drop (leading.toNat + 1) = w.toText ∧
      w.Writes (n * 10 ^ (leading + 1 - t.length)) := by
  have inside : leading.toNat + 1 < t.length := by omega
  refine ⟨⟨t.take (leading.toNat + 1), t.drop (leading.toNat + 1), none, by simp [nonempty],
    by simpa using inside, fun p member => digits p (List.mem_of_mem_take member),
    fun p member => digits p (List.mem_of_mem_drop member)⟩, ?_, n, ?_, ?_⟩
  · simp [Pointed.toText, Pointed.exponentPart]
    rfl
  · rwa [List.take_append_drop]
  · congr 2
    simp
    omega

theorem positional_plain (nonempty : t ≠ []) (digits : Text.IsDigits t)
    (known : Text.toNat? 10 t = some n) (leading : Int) :
    ∃ w : Pointed, positional .plain t leading = w.toText ∧
      w.Writes (n * 10 ^ (leading + 1 - t.length)) := by
  unfold positional
  dsimp only
  split
  next small => exact exists_pointed_of_neg nonempty digits known small
  next whole =>
    split
    next short => exact exists_pointed_of_short nonempty digits known whole short
    next long =>
      rw [List.splitAt_eq]
      exact exists_pointed_of_long nonempty digits known whole long

theorem scientific_plain (nonempty : t ≠ []) (digits : Text.IsDigits t)
    (known : Text.toNat? 10 t = some n) (leading : Int) :
    (∃ w : Pointed, scientific .plain t leading = w.toText ∧
      w.Writes (n * 10 ^ (leading + 1 - t.length))) ∨
    ∃ p, p.isDigit = true ∧ scientific .plain t leading = p :: exponentText leading := by
  obtain ⟨p, others, rfl⟩ := List.exists_cons_of_ne_nil nonempty
  have first : p.isDigit = true := digits p List.mem_cons_self
  have exponent : (NumberStyle.plain.exponentMark ++ (if leading < 0 then "-" else "+" : Text)
      ++ Text.padded 2 (Text.ofNat leading.natAbs)) = exponentText leading := by
    unfold exponentText
    split <;> rfl
  cases others with
  | nil =>
    refine Or.inr ⟨p, first, ?_⟩
    rw [← exponent]
    rfl
  | cons q others =>
    refine Or.inl ⟨⟨[p], q :: others, some leading, by simp, by simp, by simpa [Text.IsDigits],
      fun r member => digits r (List.mem_cons_of_mem _ member)⟩, ?_, n, known, ?_⟩
    · rw [Pointed.toText, Pointed.exponentPart, Option.elim, ← exponent]
      simp [scientific, List.splitAt_eq]
      rfl
    · congr 2
      simp

end

/-- A positive number is written with a point between digits, or as one digit with an exponent. -/
theorem toText_plain {d : Decimal} (positive : 0 < d.digits) :
    (∃ w : Pointed, d.toText .plain = w.toText ∧ w.Writes d.toRat) ∨
      ∃ p x, p.isDigit = true ∧ d.toText .plain = p :: exponentText x := by
  obtain ⟨k, split⟩ := exists_eq_append_zeros (Text.ofNat d.digits)
  obtain ⟨t, stripped⟩ : ∃ t, t = ((Text.ofNat d.digits).reverse.dropWhile
    (· == .char '0')).reverse := ⟨_, rfl⟩
  rw [← stripped] at split
  have digits : Text.IsDigits t := fun p member =>
    Text.isDigits_ofNat d.digits p (split ▸ List.mem_append_left _ member)
  obtain ⟨n, known⟩ := digits.exists_toNat?
  have value : d.digits = n * 10 ^ k := by
    have := Text.toNat?_append_zeros known k
    rw [← split, Text.toNat?_ofNat] at this
    exact Option.some.inj this
  have nonempty : t ≠ [] := by
    rintro rfl
    cases known
    omega
  obtain ⟨leading, leading_eq⟩ :
      ∃ leading, leading = d.exponent + (Text.ofNat d.digits).length - 1 := ⟨_, rfl⟩
  have same : d.toRat = n * 10 ^ (leading + 1 - t.length) := by
    have : leading + 1 - t.length = k + d.exponent := by
      rw [leading_eq, split]
      simp [Text.zeros]
      omega
    rw [this, zpow_add₀ (by norm_num), zpow_natCast, toRat, value]
    push_cast
    ring
  have laid : d.toText .plain = if -4 ≤ leading ∧ leading ≤ 15 then positional .plain t leading
      else scientific .plain t leading := by
    rw [stripped, leading_eq]
    rfl
  rw [laid, same]
  split
  · exact Or.inl (positional_plain nonempty digits known leading)
  · rcases scientific_plain nonempty digits known leading with pointed | ⟨p, first, alone⟩
    · exact Or.inl pointed
    · exact Or.inr ⟨p, leading, first, alone⟩

end Decimal

/-! ### Reading -/

theorem point_not_mem_exponentText {p : CodePoint} (digit : p.isDigit = true) (x : Int) :
    .char '.' ∉ p :: exponentText x := by
  intro member
  rcases List.mem_cons.mp member with rfl | member
  · cases digit
  rcases List.mem_cons.mp member with same | member
  · cases same
  rcases List.mem_cons.mp member with same | member
  · split at same <;> cases same
  rcases List.mem_append.mp member with zero | digit
  · cases Text.isDigits_zeros _ _ zero
  · cases Text.isDigits_ofNat _ _ digit

theorem isNumeric_exponentText (x : Int) : (exponentText x).IsNumeric := by
  intro p member
  rcases List.mem_cons.mp member with rfl | member
  · rfl
  rcases List.mem_cons.mp member with rfl | member
  · split <;> rfl
  rcases List.mem_append.mp member with zero | digit
  · exact CodePoint.isNumeric_of_isDigit (Text.isDigits_zeros _ p zero)
  · exact CodePoint.isNumeric_of_isDigit (Text.isDigits_ofNat _ p digit)

theorem isNumeral_exponentText {p : CodePoint} (digit : p.isDigit = true) (x : Int) :
    Text.IsNumeral (p :: exponentText x) :=
  have one : Text.IsNumeral [p] := .of_digits (by simp) (by simpa [Text.IsDigits])
  one.append (isNumeric_exponentText x)

theorem exponent?_exponentText (x : Int) : Binary64.exponent? (exponentText x) = some x := by
  have read : Text.toNat? 10 (Text.padded 2 (Text.ofNat x.natAbs)) = some x.natAbs := by
    rw [Text.padded, Text.toNat?_zeros_append (by decide), Text.toNat?_ofNat]
  have nonempty : (Text.padded 2 (Text.ofNat x.natAbs)).isEmpty = false := by
    simp [Text.padded, Text.ofNat_ne_nil]
  unfold exponentText Binary64.exponent?
  by_cases negative : x < 0
  · simp only [if_pos negative, Text.splitSign, nonempty, read]
    simp [abs_of_neg negative]
  · simp only [if_neg negative, Text.splitSign, nonempty, read]
    simp [abs_of_nonneg (not_lt.mp negative)]

namespace Pointed

variable (w : Pointed)

theorem isNumeral_toText : w.toText.IsNumeral := by
  have tail : w.exponentPart.IsNumeric := by
    unfold exponentPart
    cases w.exponent with
    | none => simp [Text.IsNumeric]
    | some x => exact isNumeric_exponentText x
  have whole := Text.IsNumeral.of_digits w.whole_ne_nil w.whole_digits
  refine (whole.append fun p member => ?_).append tail
  rcases List.mem_cons.mp member with rfl | digit
  · rfl
  · exact CodePoint.isNumeric_of_isDigit (w.fraction_digits p digit)

/-- What follows the fraction does not begin with a digit. -/
theorem exponentPart_head : ∀ p ∈ w.exponentPart.head?, p.isDigit = false := by
  unfold exponentPart
  cases w.exponent with
  | none => simp
  | some x =>
    rintro p ⟨⟩
    rfl

theorem ofDigits?_toText {n : Nat} (known : Text.toNat? 10 (w.whole ++ w.fraction) = some n)
    (negative : Bool) : Binary64.ofDigits? negative w.toText
      = some (.ofDecimal negative n (w.exponent.getD 0 - w.fraction.length)) := by
  have front : Binary64.splitDigits w.toText
      = (w.whole, .char '.' :: (w.fraction ++ w.exponentPart)) := by
    rw [toText, List.append_assoc]
    exact Text.span_append w.whole_digits (by rintro p ⟨⟩; rfl)
  have back : Binary64.splitDigits (w.fraction ++ w.exponentPart) = (w.fraction, w.exponentPart) :=
    Text.span_append w.fraction_digits w.exponentPart_head
  have tail : Binary64.exponent? w.exponentPart = some (w.exponent.getD 0) := by
    unfold exponentPart
    cases w.exponent with
    | none => rfl
    | some x => exact exponent?_exponentText x
  simp [Binary64.ofDigits?, front, back, tail, known, w.whole_ne_nil]

end Pointed

namespace Binary64

/-- A numeral is no word for infinity or for no number. -/
theorem ofText?_of_isNumeral {t : Text} (numeral : t.IsNumeral) :
    ofText? t = ofDigits? false t := by
  obtain ⟨p, rest, same, digit⟩ := numeral.startsWithDigit
  have word : ∀ u : Text, u.head? = some (.char 'i') ∨ u.head? = some (.char 'n') → t ≠ u := by
    rintro u other rfl
    rw [same, List.head?_cons, Option.some_inj, Option.some_inj] at other
    rcases other with rfl | rfl <;> cases digit
  have infinite : infinityWords.contains t = false := by
    simp only [infinityWords, List.contains_cons, List.contains_nil, Bool.or_false,
      Bool.or_eq_false_iff, beq_eq_false_iff_ne]
    exact ⟨word _ (Or.inl rfl), word _ (Or.inl rfl)⟩
  rw [ofText?, numeral.bareNumber, numeral.splitSign]
  simp only [numeral.numeric.lowerAscii, infinite, if_neg (word "nan" (Or.inr rfl)),
    Bool.false_eq_true, if_false]

/-- The interval of a number lies between the numbers with 400 decimal places either way. -/
theorem bounds_of_contains {m : Nat} {e : Int} (fits : Fits m e) (positive : 0 < m) {q : ℚ}
    (inside : (Decimal.Interval.of m e).Contains e q) :
    10 ^ (-400 : Int) ≤ q ∧ q < 10 ^ (400 : Int) := by
  have one_le : (1 : ℚ) ≤ m := by exact_mod_cast positive
  have least := fits.least_le
  have greatest := fits.le_greatest
  rw [leastExponent] at least
  rw [greatestExponent] at greatest
  -- Three binary places are less than one decimal place.
  have eight (n : Int) : (8 : ℚ) ^ n = 2 ^ (3 * n) := by
    rw [zpow_mul]
    norm_num
  constructor
  · calc (10 : ℚ) ^ (-400 : Int) ≤ 8 ^ (-400 : Int) := by
          rw [zpow_neg, zpow_neg]
          exact inv_anti₀ (by positivity)
            (zpow_le_zpow_left₀ (by norm_num) (by norm_num) (by norm_num))
      _ = 2 ^ (3 * -400 : Int) := eight _
      _ ≤ 2 ^ (e - 2) := zpow_le_zpow_right₀ (by norm_num) (by omega)
      _ ≤ (4 * m - 2) * 2 ^ (e - 2) := le_mul_of_one_le_left (by positivity) (by linarith)
      _ ≤ q := lower_of_contains positive inside
  · calc q < 2 ^ (e + 53) := lt_of_contains fits inside
      _ ≤ 2 ^ (3 * 400 : Int) := zpow_le_zpow_right₀ (by norm_num) (by omega)
      _ = 8 ^ (400 : Int) := (eight _).symm
      _ < 10 ^ (400 : Int) := zpow_lt_zpow_left₀ (by norm_num) (by norm_num) (by norm_num)

/-- A decimal in the interval of a number is read as the number. -/
theorem ofDecimal_of_contains {m : Nat} {e : Int} (fits : Fits m e) (positive : 0 < m)
    {n : Nat} {x : Int} (inside : (Decimal.Interval.of m e).Contains e (n * 10 ^ x))
    (negative : Bool) : ofDecimal negative n x = .finite negative m e := by
  obtain ⟨low, high⟩ := bounds_of_contains fits positive inside
  have tenPos : (0 : ℚ) < 10 ^ x := by positivity
  have nonzero : n ≠ 0 := by
    rintro rfl
    have : (0 : ℚ) < 10 ^ (-400 : Int) := by positivity
    rw [Nat.cast_zero, zero_mul] at low
    exact absurd low (not_le.mpr this)
  obtain ⟨length, length_eq⟩ : ∃ length, length = (Nat.toDigits 10 n).length := ⟨_, rfl⟩
  have length_pos : 0 < length := length_eq ▸ List.length_pos_of_ne_nil Nat.toDigits_ne_nil
  have below : (n : ℚ) < 10 ^ length := by
    exact_mod_cast (Nat.length_toDigits_le_iff (by decide) length_pos).mp length_eq.ge
  have above : (10 : ℚ) ^ (length - 1) ≤ n := by
    have : 10 ^ (length - 1) ≤ n := by
      rcases Nat.eq_zero_or_pos (length - 1) with one | more
      · rw [one]
        omega
      · refine not_lt.mp fun small => ?_
        have := (Nat.length_toDigits_le_iff (by decide) more).mpr small
        omega
    exact_mod_cast this
  have notTooSmall : ¬ x + length < -400 := by
    intro small
    have : (n * 10 ^ x : ℚ) < 10 ^ (length + x) := by
      rw [zpow_add₀ (by norm_num), zpow_natCast]
      exact mul_lt_mul_of_pos_right below tenPos
    have := (zpow_lt_zpow_iff_right₀ (by norm_num : (1 : ℚ) < 10)).mp (low.trans_lt this)
    omega
  have notTooLarge : ¬ 400 < x + length := by
    intro large
    have : (10 : ℚ) ^ ((length - 1 : Nat) + x) ≤ n * 10 ^ x := by
      rw [zpow_add₀ (by norm_num), zpow_natCast]
      exact mul_le_mul_of_nonneg_right above tenPos.le
    have := (zpow_lt_zpow_iff_right₀ (by norm_num : (1 : ℚ) < 10)).mp (this.trans_lt high)
    omega
  have quotient : (n * 10 ^ x : ℚ)
      = (n * Nat.pow 10 x.toNat : Nat) / (Nat.pow 10 (-x).toNat : Nat) := by
    have := zpow_eq_toNat_div 10 (by norm_num) x
    simp only [Nat.pow_eq]
    push_cast at this ⊢
    rw [this, mul_div_assoc]
  rw [quotient] at inside
  rw [ofDecimal, ← length_eq]
  simp only [nonzero, notTooSmall, notTooLarge, false_or, if_false]
  exact nearest_of_contains fits positive (by simp only [Nat.pow_eq]; positivity) inside negative

/-- What is written with a point is read as the number it was written for. -/
theorem ofText?_of_writes {m : Nat} {e : Int} (fits : Fits m e) (positive : 0 < m) {w : Pointed}
    (writes : w.Writes (Decimal.shortest m e).toRat) :
    ofText? w.toText = some (.finite false m e) := by
  obtain ⟨n, known, value⟩ := writes
  have inside := Decimal.contains_shortest fits positive
  rw [value] at inside
  rw [ofText?_of_isNumeral w.isNumeral_toText, w.ofDigits?_toText known,
    ofDecimal_of_contains fits positive inside]

/-- Whether a number is one that has 64 bits: the significand has all its bits unless the exponent
is the least one. -/
def IsCanonical : Binary64 → Prop
  | finite _ m e => Fits m e
  | infinite _ | notANumber => False

/-- A number with a point in its text is read from the text without the sign; any other one is
written with one digit. -/
theorem toText_plain {x : Binary64} (canonical : x.IsCanonical) :
    ∃ negative, (∃ w : Pointed, x.toText .plain = minus negative ++ w.toText ∧
        ∃ y, ofText? w.toText = some y ∧ (if negative then y.negate else y) = x) ∨
      ∃ p n, p.isDigit = true ∧ x.toText .plain = minus negative ++ p :: exponentText n := by
  cases x with
  | infinite _ | notANumber => cases canonical
  | finite negative m e =>
    refine ⟨negative, ?_⟩
    cases m with
    | zero =>
      have least : e = leastExponent := canonical.least_of_lt (by decide)
      let w : Pointed :=
        ⟨[.char '0'], [.char '0'], none, by simp, by simp, by simp [Text.IsDigits]; rfl,
          by simp [Text.IsDigits]; rfl⟩
      refine Or.inl ⟨w, by cases negative <;> rfl, .finite false 0 leastExponent, rfl, ?_⟩
      cases negative <;> simp [negate, least]
    | succ m =>
      have positive : 0 < m + 1 := by omega
      rcases Decimal.toText_plain (Decimal.shortest_digits_pos canonical positive) with
        ⟨w, written, writes⟩ | ⟨p, n, digit, written⟩
      · refine Or.inl
          ⟨w, by rw [← written]; rfl, _, ofText?_of_writes canonical positive writes, ?_⟩
        cases negative <;> simp [negate]
      · exact Or.inr ⟨p, n, digit, by rw [← written]; rfl⟩

/-- A number is written as a numeral with its sign. -/
theorem exists_numeral {x : Binary64} (canonical : x.IsCanonical) :
    ∃ negative t, Text.IsNumeral t ∧ x.toText .plain = minus negative ++ t := by
  obtain ⟨negative, ⟨w, written, -⟩ | ⟨p, n, digit, written⟩⟩ := toText_plain canonical
  · exact ⟨negative, _, w.isNumeral_toText, written⟩
  · exact ⟨negative, _, isNumeral_exponentText digit n, written⟩

end Binary64

end PrismaEsdl
