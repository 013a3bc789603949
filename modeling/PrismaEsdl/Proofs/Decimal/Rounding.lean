import Mathlib.Algebra.Order.Archimedean.Basic
import Mathlib.Algebra.Order.Field.Power
import Mathlib.Algebra.Order.Field.Rat
import Mathlib.Data.Nat.Log
import Mathlib.Tactic.FieldSimp
import Mathlib.Tactic.Linarith
import Mathlib.Tactic.NormNum
import Mathlib.Tactic.Positivity
import Mathlib.Tactic.Qify
import Mathlib.Tactic.Ring
import PrismaEsdl.Decimal.Shortest

/-!
What rounds to a binary64 number.

Quotients are taken as rational numbers here. `nearest_of_contains` says that every quotient in the
interval of a number (`Decimal.Interval.of`) is rounded to that number, the ends included where they
belong to the interval.
-/

namespace PrismaEsdl

/-- A power as a quotient of powers with natural exponents. -/
theorem zpow_eq_toNat_div (base : Nat) (positive : 0 < base) (e : Int) :
    (base : ℚ) ^ e = base ^ e.toNat / base ^ (-e).toNat := by
  have nonzero : (base : ℚ) ≠ 0 := by exact_mod_cast positive.ne'
  obtain ⟨n, rfl | rfl⟩ := e.eq_nat_or_neg
  · simp
  · simp

/-- Whether a number lies in an interval that is given in quarters of a power of two. -/
def Decimal.Interval.Contains (interval : Decimal.Interval) (exponent : Int) (q : ℚ) : Prop :=
  if interval.closed then
    interval.low * 2 ^ (exponent - 2) ≤ q ∧ q ≤ interval.high * 2 ^ (exponent - 2)
  else interval.low * 2 ^ (exponent - 2) < q ∧ q < interval.high * 2 ^ (exponent - 2)

theorem Decimal.Interval.Contains.bounds {interval : Decimal.Interval} {exponent : Int} {q : ℚ}
    (inside : interval.Contains exponent q) :
    interval.low * 2 ^ (exponent - 2) ≤ q ∧ q ≤ interval.high * 2 ^ (exponent - 2) := by
  unfold Contains at inside
  split at inside
  · exact inside
  · exact ⟨inside.1.le, inside.2.le⟩

namespace Binary64

/-- A significand and an exponent that are those of a finite number: the significand has at most 53
bits, and fewer only with the least exponent. -/
structure Fits (significand : Nat) (exponent : Int) : Prop where
  significand_lt : significand < 2 * leastNormal
  least_le : leastExponent ≤ exponent
  le_greatest : exponent ≤ greatestExponent
  least_of_lt : significand < leastNormal → exponent = leastExponent

/-! ### Quotients on a scale -/

section

variable {num den : Nat} {exponent : Int}

theorem scaled_den_pos (positive : 0 < den) : 0 < (scaled num den exponent).2 := by
  simp only [scaled, Nat.pow_eq]
  positivity

/-- A quotient on the scale of a power of two. -/
theorem scaled_div (num den : Nat) (exponent : Int) :
    ((scaled num den exponent).1 : ℚ) / (scaled num den exponent).2
      = num / den / 2 ^ exponent := by
  have power := zpow_eq_toNat_div 2 (by norm_num) exponent
  simp only [scaled, Nat.pow_eq]
  push_cast at power ⊢
  rw [power]
  field_simp

/-- A whole number is the nearest one to a quotient that is at most a half away from it; where it is
a half away the number has to be even. -/
theorem roundQuotient_eq {k : Nat} (positive : 0 < den) (low : 2 * (k * den) ≤ 2 * num + den)
    (high : 2 * num ≤ 2 * (k * den) + den)
    (inside : k % 2 = 0 ∨ 2 * (k * den) < 2 * num + den ∧ 2 * num < 2 * (k * den) + den) :
    roundQuotient num den = k := by
  have split := Nat.div_add_mod num den
  have small := Nat.mod_lt num positive
  unfold roundQuotient
  generalize num / den = quotient at *
  generalize num % den = rest at *
  subst split
  have upper : quotient < k + 1 := by
    by_contra beyond
    have : den * (k + 1) ≤ den * quotient := Nat.mul_le_mul_left den (by omega)
    rw [Nat.mul_add, Nat.mul_comm den k] at this
    omega
  have lower : k < quotient + 2 := by
    by_contra beyond
    have : den * (quotient + 2) ≤ den * k := Nat.mul_le_mul_left den (by omega)
    rw [Nat.mul_add, Nat.mul_comm den k] at this
    omega
  obtain rfl | rfl : k = quotient ∨ k = quotient + 1 := by omega
  · rw [Nat.mul_comm den k] at *
    dsimp only
    split
    · rfl
    · split <;> omega
  · rw [Nat.add_mul, Nat.mul_comm den quotient] at *
    dsimp only
    split
    · omega
    · split <;> omega

/-- A quotient is known from the logarithms up to a factor of four. -/
theorem zpow_log2_le_div (positive : 0 < num) (positive' : 0 < den) :
    (2 : ℚ) ^ ((num.log2 : Int) - den.log2 - 1) ≤ num / den := by
  have denPos : (0 : ℚ) < den := by exact_mod_cast positive'
  have numLow : (2 : ℚ) ^ num.log2 ≤ num := by
    exact_mod_cast Nat.log2_self_le positive.ne'
  have denHigh : (den : ℚ) < 2 ^ (den.log2 + 1) := by
    exact_mod_cast Nat.lt_log2_self
  have power : (2 : ℚ) ^ ((num.log2 : Int) - den.log2 - 1) * 2 ^ (den.log2 + 1)
      = 2 ^ num.log2 := by
    rw [← zpow_natCast, ← zpow_natCast, ← zpow_add₀ (by norm_num)]
    congr 1
    push_cast
    omega
  rw [le_div_iff₀ denPos]
  calc (2 : ℚ) ^ ((num.log2 : Int) - den.log2 - 1) * den
      ≤ 2 ^ ((num.log2 : Int) - den.log2 - 1) * 2 ^ (den.log2 + 1) := by gcongr
    _ = 2 ^ num.log2 := power
    _ ≤ num := numLow

theorem div_lt_zpow_log2 (positive' : 0 < den) :
    (num / den : ℚ) < 2 ^ ((num.log2 : Int) - den.log2 + 1) := by
  have denPos : (0 : ℚ) < den := by exact_mod_cast positive'
  have numHigh : (num : ℚ) < 2 ^ (num.log2 + 1) := by
    exact_mod_cast Nat.lt_log2_self
  have denLow : (2 : ℚ) ^ den.log2 ≤ den := by
    exact_mod_cast Nat.log2_self_le positive'.ne'
  have power : (2 : ℚ) ^ ((num.log2 : Int) - den.log2 + 1) * 2 ^ den.log2
      = 2 ^ (num.log2 + 1) := by
    rw [← zpow_natCast, ← zpow_natCast, ← zpow_add₀ (by norm_num)]
    congr 1
    push_cast
    omega
  rw [div_lt_iff₀ denPos]
  calc (num : ℚ) < 2 ^ (num.log2 + 1) := numHigh
    _ = 2 ^ ((num.log2 : Int) - den.log2 + 1) * 2 ^ den.log2 := power.symm
    _ ≤ 2 ^ ((num.log2 : Int) - den.log2 + 1) * den := by gcongr

/-- Whether a quotient on a scale has at most 53 bits before its point. -/
theorem scaled_lt_iff (positive' : 0 < den) (exponent : Int) :
    (scaled num den exponent).1 / (scaled num den exponent).2 < 2 * leastNormal ↔
      (num / den : ℚ) < 2 ^ (exponent + 53) := by
  have cast : (((2 * leastNormal * (scaled num den exponent).2 : Nat)) : ℚ)
      = 2 ^ (53 : Int) * (scaled num den exponent).2 := by
    norm_num [leastNormal]
  have scaledPos : (0 : ℚ) < (scaled num den exponent).2 := by
    exact_mod_cast scaled_den_pos positive'
  rw [Nat.div_lt_iff_lt_mul (scaled_den_pos positive'), ← Nat.cast_lt (α := ℚ), cast,
    ← div_lt_iff₀ scaledPos, scaled_div, div_lt_iff₀ (by positivity),
    ← zpow_add₀ (by norm_num), add_comm (53 : Int)]

/-- The exponent of a quotient that has a significand of 53 bits with some exponent. -/
theorem exponentOf_eq (positive : 0 < num) (positive' : 0 < den)
    (low : (2 : ℚ) ^ (exponent + 52) ≤ num / den) (high : (num / den : ℚ) < 2 ^ (exponent + 53)) :
    exponentOf num den = max leastExponent exponent := by
  have two : (1 : ℚ) < 2 := by norm_num
  have above := zpow_log2_le_div positive positive'
  have below : (num / den : ℚ) < _ := div_lt_zpow_log2 positive'
  have test : _ ↔ (num / den : ℚ) < _ := scaled_lt_iff positive' (num.log2 - den.log2 - 53)
  unfold exponentOf
  dsimp only
  congr 1
  by_cases small : (num / den : ℚ) < 2 ^ ((num.log2 - den.log2 - 53 : Int) + 53)
  · rw [if_pos (test.mpr small)]
    have first := (zpow_lt_zpow_iff_right₀ two).mp (above.trans_lt high)
    have second := (zpow_lt_zpow_iff_right₀ two).mp (low.trans_lt small)
    omega
  · rw [if_neg (mt test.mp small)]
    have first := (zpow_lt_zpow_iff_right₀ two).mp ((not_lt.mp small).trans_lt high)
    have second := (zpow_lt_zpow_iff_right₀ two).mp (low.trans_lt below)
    omega

/-- The exponent of a quotient below the least one with 53 bits. -/
theorem exponentOf_eq_least (positive : 0 < num) (positive' : 0 < den)
    (small : (num / den : ℚ) < 2 ^ (leastExponent + 53)) :
    exponentOf num den = leastExponent := by
  have quotientPos : (0 : ℚ) < num / den := by positivity
  obtain ⟨n, low, high⟩ := exists_mem_Ico_zpow quotientPos (by norm_num : (1 : ℚ) < 2)
  have below := (zpow_lt_zpow_iff_right₀ (by norm_num : (1 : ℚ) < 2)).mp (low.trans_lt small)
  have found : exponentOf num den = max leastExponent (n - 52) := exponentOf_eq positive positive'
    (by rwa [sub_add_cancel]) (by rwa [show n - 52 + 53 = n + 1 by ring])
  rw [found]
  omega

/-- A whole number is what a quotient on a scale is rounded to if it is at most a half away from it;
where it is a half away the number has to be even. -/
theorem roundQuotient_scaled {k : Nat} (positive : 0 < den)
    (low : (4 * k - 2 : ℚ) * 2 ^ (exponent - 2) ≤ num / den)
    (high : (num / den : ℚ) ≤ (4 * k + 2) * 2 ^ (exponent - 2))
    (inside : k % 2 = 0 ∨ (4 * k - 2 : ℚ) * 2 ^ (exponent - 2) < num / den ∧
      (num / den : ℚ) < (4 * k + 2) * 2 ^ (exponent - 2)) :
    roundQuotient (scaled num den exponent).1 (scaled num den exponent).2 = k := by
  have onScale := scaled_div num den exponent
  have scaledPos : 0 < (scaled num den exponent).2 := scaled_den_pos positive
  generalize scaled num den exponent = pair at *
  obtain ⟨n, d⟩ := pair
  have scalePos : (0 : ℚ) < 2 ^ exponent := by positivity
  have dPos : (0 : ℚ) < d := by exact_mod_cast scaledPos
  have quarter : (2 : ℚ) ^ (exponent - 2) = 2 ^ exponent / 4 := by
    rw [zpow_sub₀ (by norm_num)]
    norm_num
  have quotient : (num / den : ℚ) = n / d * 2 ^ exponent := by
    rw [onScale]
    field_simp
  -- Over a common denominator the bounds are about natural numbers.
  have below : (4 * k - 2 : ℚ) * (2 ^ exponent / 4) = (2 * k - 1) * d / (2 * d) * 2 ^ exponent := by
    field_simp
    ring
  have above : (4 * k + 2 : ℚ) * (2 ^ exponent / 4) = (2 * k + 1) * d / (2 * d) * 2 ^ exponent := by
    field_simp
    ring
  have middle : (n / d : ℚ) = 2 * n / (2 * d) := by field_simp
  rw [quarter, quotient, below, above, middle] at inside
  rw [quarter, quotient, below, middle, mul_le_mul_iff_left₀ scalePos,
    div_le_div_iff_of_pos_right (by positivity)] at low
  rw [quarter, quotient, above, middle, mul_le_mul_iff_left₀ scalePos,
    div_le_div_iff_of_pos_right (by positivity)] at high
  rw [mul_lt_mul_iff_left₀ scalePos, div_lt_div_iff_of_pos_right (by positivity),
    mul_lt_mul_iff_left₀ scalePos, div_lt_div_iff_of_pos_right (by positivity)] at inside
  apply roundQuotient_eq scaledPos
  · qify
    linarith
  · qify
    linarith
  · refine inside.imp_right fun ⟨low, high⟩ => ⟨?_, ?_⟩
    · qify
      linarith
    · qify
      linarith

end

/-! ### Rounding -/

section

variable {num den k : Nat}

theorem nearest_eq (nonzero : num ≠ 0)
    (rounded : roundQuotient (scaled num den (exponentOf num den)).1
      (scaled num den (exponentOf num den)).2 = k)
    (small : k < 2 * leastNormal) (bounded : exponentOf num den ≤ greatestExponent)
    (negative : Bool) : nearest negative num den = .finite negative k (exponentOf num den) := by
  simp only [nearest, nonzero, rounded, small.ne, bounded, if_true, if_false]

/-- A significand that is rounded up to one more bit goes with the next exponent. -/
theorem nearest_eq_of_carry (nonzero : num ≠ 0)
    (rounded : roundQuotient (scaled num den (exponentOf num den)).1
      (scaled num den (exponentOf num den)).2 = 2 * leastNormal)
    (bounded : exponentOf num den + 1 ≤ greatestExponent) (negative : Bool) :
    nearest negative num den = .finite negative leastNormal (exponentOf num den + 1) := by
  simp only [nearest, nonzero, rounded, bounded, if_true, if_false]

end

/-- The lower end of the interval of a number is at most half a unit in the last place away from
it. -/
theorem low_le {m : Nat} (positive : 0 < m) (e : Int) :
    (4 * m - 2 : ℚ) ≤ (Decimal.Interval.of m e).low := by
  have : 4 * m - 2 ≤ (Decimal.Interval.of m e).low := by
    unfold Decimal.Interval.of
    dsimp only
    split <;> omega
  have cast : ((4 * m - 2 : Nat) : ℚ) = 4 * m - 2 := by
    rw [Nat.cast_sub (by omega)]
    push_cast
    rfl
  rw [← cast]
  exact_mod_cast this

theorem high_eq (m : Nat) (e : Int) : ((Decimal.Interval.of m e).high : ℚ) = 4 * m + 2 := by
  simp [Decimal.Interval.of]

/-! ### Intervals -/

section

variable {m : Nat} {e : Int} {q : ℚ}

theorem lower_of_contains (positive : 0 < m) (inside : (Decimal.Interval.of m e).Contains e q) :
    (4 * m - 2 : ℚ) * 2 ^ (e - 2) ≤ q :=
  (mul_le_mul_of_nonneg_right (low_le positive e) (by positivity)).trans inside.bounds.1

theorem upper_of_contains (inside : (Decimal.Interval.of m e).Contains e q) :
    q ≤ (4 * m + 2 : ℚ) * 2 ^ (e - 2) := by
  rw [← high_eq m e]
  exact inside.bounds.2

theorem pos_of_contains (positive : 0 < m) (inside : (Decimal.Interval.of m e).Contains e q) :
    0 < q := by
  have one_le : (1 : ℚ) ≤ m := by exact_mod_cast positive
  refine lt_of_lt_of_le (mul_pos ?_ (by positivity)) (lower_of_contains positive inside)
  linarith

/-- Only an even significand has the ends of its interval in it. -/
theorem ties_of_contains (positive : 0 < m) (inside : (Decimal.Interval.of m e).Contains e q) :
    m % 2 = 0 ∨ (4 * m - 2 : ℚ) * 2 ^ (e - 2) < q ∧ q < (4 * m + 2) * 2 ^ (e - 2) := by
  by_cases even : m % 2 = 0
  · exact Or.inl even
  · have closed : (Decimal.Interval.of m e).closed = false := by
      simp [Decimal.Interval.of, even]
    rw [Decimal.Interval.Contains, closed, if_neg (by simp), high_eq] at inside
    have lower := mul_le_mul_of_nonneg_right (low_le positive e)
      (by positivity : (0 : ℚ) ≤ 2 ^ (e - 2))
    exact Or.inr ⟨lower.trans_lt inside.1, inside.2⟩

theorem zpow_eq_quarters (e : Int) (n : Nat) :
    (2 : ℚ) ^ (e + n) = 2 ^ (n + 2) * 2 ^ (e - 2) := by
  rw [← zpow_natCast, ← zpow_add₀ (by norm_num)]
  congr 1
  push_cast
  ring

theorem lt_of_contains (fits : Fits m e) (inside : (Decimal.Interval.of m e).Contains e q) :
    q < 2 ^ (e + 53) := by
  have significand_le : (m + 1 : ℚ) ≤ 2 ^ 53 := by
    have := fits.significand_lt
    exact_mod_cast this
  have room : (4 * m + 2 : ℚ) < 2 ^ (53 + 2) := by
    norm_num at significand_le ⊢
    linarith
  exact (upper_of_contains inside).trans_lt
    ((mul_lt_mul_of_pos_right room (by positivity)).trans_eq (zpow_eq_quarters e 53).symm)

/-- Only the least normal significand has numbers with one bit less in its interval. -/
theorem normal_of_contains (fits : Fits m e) (positive : 0 < m)
    (inside : (Decimal.Interval.of m e).Contains e q) (small : q < 2 ^ (e + 52))
    (above : leastExponent < e) : m = leastNormal := by
  have atLeast : ¬ m < leastNormal := fun below => (fits.least_of_lt below ▸ above).false
  have atMost : (4 * m - 2 : ℚ) < 2 ^ 54 := by
    have := (lower_of_contains positive inside).trans_lt (small.trans_eq (zpow_eq_quarters e 52))
    exact lt_of_mul_lt_mul_right this (by positivity)
  have : (4 * m : ℚ) < 2 ^ 54 + 2 := by linarith
  have : 4 * m < 2 ^ 54 + 2 := by exact_mod_cast this
  have : leastNormal = 2 ^ 52 := rfl
  omega

end

section

variable {m num den : Nat} {e : Int}

/-- A quotient below the power of two that has it in its interval is rounded up to it. -/
theorem nearest_of_contains_of_lt (fits : Fits m e) (positive : 0 < m) (positive' : 0 < den)
    (nonzero : 0 < num) (inside : (Decimal.Interval.of m e).Contains e (num / den))
    (small : (num / den : ℚ) < 2 ^ (e + 52)) (above : leastExponent < e) (negative : Bool) :
    nearest negative num den = .finite negative m e := by
  obtain rfl := normal_of_contains fits positive inside small above
  have quarterPos : (0 : ℚ) < 2 ^ (e - 2) := by positivity
  have ends : ((Decimal.Interval.of leastNormal e).low : ℚ) = 2 ^ 54 - 1 := by
    simp only [Decimal.Interval.of, above, and_self, if_true]
    norm_num [leastNormal]
  have low := inside.bounds.1
  rw [ends] at low
  have found : exponentOf num den = e - 1 := by
    have atLeast : (2 : ℚ) ^ (e - 1 + 52) ≤ num / den := by
      rw [show e - 1 + 52 = e + (51 : Nat) by push_cast; ring, zpow_eq_quarters]
      exact (mul_le_mul_of_nonneg_right (by norm_num) quarterPos.le).trans low
    rw [exponentOf_eq nonzero positive' atLeast (by rwa [show e - 1 + 53 = e + 52 by ring])]
    exact max_eq_right (by omega)
  have half : (2 : ℚ) ^ (e - 1 - 2) = 2 ^ (e - 2) / 2 := by
    rw [show e - 1 - 2 = e - 2 - 1 by ring, zpow_sub₀ (by norm_num)]
    norm_num
  have rounded : roundQuotient (scaled num den (e - 1)).1 (scaled num den (e - 1)).2
      = 2 * leastNormal := by
    refine roundQuotient_scaled positive' ?_ ?_ (Or.inl rfl)
    · rw [half]
      norm_num [leastNormal] at low ⊢
      linarith
    · rw [half]
      have := small.trans_eq (zpow_eq_quarters e 52)
      norm_num [leastNormal] at this ⊢
      linarith
  rw [← found] at rounded
  have bounded : exponentOf num den + 1 ≤ greatestExponent := by
    have := fits.le_greatest
    omega
  rw [nearest_eq_of_carry nonzero.ne' rounded bounded, found, sub_add_cancel]

/-- A number is the one nearest to every quotient in its interval. -/
theorem nearest_of_contains (fits : Fits m e) (positive : 0 < m) (positive' : 0 < den)
    (inside : (Decimal.Interval.of m e).Contains e (num / den)) (negative : Bool) :
    nearest negative num den = .finite negative m e := by
  have nonzero : 0 < num := by
    by_contra zero
    have quotientPos := pos_of_contains positive inside
    simp [show num = 0 by omega] at quotientPos
  have higher := lt_of_contains fits inside
  by_cases least : (num / den : ℚ) < 2 ^ (e + 52) ∧ leastExponent < e
  · exact nearest_of_contains_of_lt fits positive positive' nonzero inside least.1 least.2 negative
  · have found : exponentOf num den = e := by
      rcases fits.least_le.lt_or_eq with above | same
      · have atLeast : (2 : ℚ) ^ (e + 52) ≤ num / den :=
          not_lt.mp fun small => least ⟨small, above⟩
        rw [exponentOf_eq nonzero positive' atLeast higher]
        exact max_eq_right fits.least_le
      · rw [exponentOf_eq_least nonzero positive' (same ▸ higher), same]
    have rounded := roundQuotient_scaled positive' (lower_of_contains positive inside)
      (upper_of_contains inside) (ties_of_contains positive inside)
    rw [← found] at rounded
    rw [nearest_eq nonzero.ne' rounded fits.significand_lt (found ▸ fits.le_greatest), found]

end

end Binary64

end PrismaEsdl
