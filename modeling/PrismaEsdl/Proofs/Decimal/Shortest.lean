import PrismaEsdl.Proofs.Decimal.Rounding

/-!
The shortest decimal of a number lies in the interval of the number (`contains_shortest`), so it is
rounded to that number again.

A point of a grid that the search takes was tested. The last grid is taken untested; it is finer
than a quarter of a unit in the last place, so the point below the number lies in the interval.
-/

namespace PrismaEsdl

namespace Decimal

/-- The rational number that a decimal is. -/
def toRat (d : Decimal) : ℚ := d.digits * 10 ^ d.exponent

section

variable (exponent place : Int)

theorem Grid.down_pos : 0 < (Grid.of exponent place).down := by
  simp only [Grid.of, Nat.pow_eq]
  positivity

/-- The two scales of a grid are those of the quarters and of the powers of ten. -/
theorem Grid.up_div_down :
    ((Grid.of exponent place).up : ℚ) / (Grid.of exponent place).down
      = 2 ^ (exponent - 2) / 10 ^ place := by
  have two := zpow_eq_toNat_div 2 (by norm_num) (exponent - 2)
  have ten := zpow_eq_toNat_div 10 (by norm_num) place
  simp only [Grid.of, Nat.pow_eq]
  push_cast at two ten ⊢
  rw [two, ten, neg_sub]
  field_simp

variable {exponent place} {point quarters : Nat}

/-- A number of quarters against a point of a grid. -/
theorem Grid.quarters_le_iff :
    quarters * (Grid.of exponent place).up ≤ point * (Grid.of exponent place).down ↔
      (quarters * 2 ^ (exponent - 2) : ℚ) ≤ point * 10 ^ place := by
  have downPos : (0 : ℚ) < (Grid.of exponent place).down := by
    exact_mod_cast Grid.down_pos exponent place
  have tenPos : (0 : ℚ) < 10 ^ place := by positivity
  rw [← div_le_iff₀ tenPos, mul_div_assoc, ← Grid.up_div_down, ← mul_div_assoc, div_le_iff₀ downPos]
  exact_mod_cast Iff.rfl

theorem Grid.le_quarters_iff :
    point * (Grid.of exponent place).down ≤ quarters * (Grid.of exponent place).up ↔
      (point * 10 ^ place : ℚ) ≤ quarters * 2 ^ (exponent - 2) := by
  have downPos : (0 : ℚ) < (Grid.of exponent place).down := by
    exact_mod_cast Grid.down_pos exponent place
  have tenPos : (0 : ℚ) < 10 ^ place := by positivity
  rw [← le_div_iff₀ tenPos, mul_div_assoc, ← Grid.up_div_down, ← mul_div_assoc, le_div_iff₀ downPos]
  exact_mod_cast Iff.rfl

variable {interval : Interval}

theorem Grid.holds_iff :
    (Grid.of exponent place).holds interval point = true ↔
      interval.Contains exponent (point * 10 ^ place) := by
  unfold Grid.holds Interval.Contains
  split
  · rw [Bool.and_eq_true, decide_eq_true_eq, decide_eq_true_eq, quarters_le_iff, le_quarters_iff]
  · rw [Bool.and_eq_true, decide_eq_true_eq, decide_eq_true_eq, ← not_le, ← not_le,
      quarters_le_iff, le_quarters_iff, not_le, not_le]

theorem Grid.holds_of_nearest? {grid : Grid} (found : grid.nearest? interval = some point) :
    grid.holds interval point = true := by
  unfold Grid.nearest? at found
  dsimp only at found
  split at found
  · cases found
  · cases found
    assumption
  · cases found
    assumption
  · rename_i low high
    split at found
    · cases found
      exact low
    · split at found
      · cases found
        exact high
      · cases found
        generalize interval.value * grid.up / grid.down = below at *
        obtain even | odd := Nat.mod_two_eq_zero_or_one below
        · simpa [even] using low
        · simpa [odd] using high

/-- What a search finds lies in the interval if the point below the number does so in the last
grid. -/
theorem contains_search {steps : Nat}
    (last : interval.Contains exponent (search interval exponent 0 (place - steps)).toRat) :
    interval.Contains exponent (search interval exponent steps place).toRat := by
  induction steps generalizing place with
  | zero => simpa using last
  | succ steps ih =>
      rw [search]
      split
      · rename_i point found
        exact Grid.holds_iff.mp (Grid.holds_of_nearest? found)
      · apply ih
        rwa [show place - 1 - (steps : Int) = place - (steps + 1 : Nat) by push_cast; ring]

/-- The point below a number lies in its interval on each grid that is as fine as the quarters. -/
theorem contains_search_zero {m : Nat} (positive : 0 < m)
    (fine : (10 : ℚ) ^ place ≤ 2 ^ (exponent - 2)) :
    (Interval.of m exponent).Contains exponent
      (search (.of m exponent) exponent 0 place).toRat := by
  have quarterPos : (0 : ℚ) < 2 ^ (exponent - 2) := by positivity
  obtain ⟨point, found⟩ : ∃ point, point = (Interval.of m exponent).value
      * (Grid.of exponent place).up / (Grid.of exponent place).down := ⟨_, rfl⟩
  have value_eq : (Interval.of m exponent).value = 4 * m := rfl
  have below : (point * 10 ^ place : ℚ) ≤ (4 * m : Nat) * 2 ^ (exponent - 2) :=
    Grid.le_quarters_iff.mp (found ▸ value_eq ▸ Nat.div_mul_le_self _ _)
  have above : ((4 * m : Nat) * 2 ^ (exponent - 2) : ℚ) < (point + 1) * 10 ^ place := by
    have : ¬ (((point + 1 : Nat) : ℚ) * 10 ^ place ≤ (4 * m : Nat) * 2 ^ (exponent - 2)) := by
      rw [← Grid.le_quarters_iff, not_le, ← value_eq, found, Nat.mul_comm (_ + 1)]
      exact Nat.lt_mul_div_succ _ (Grid.down_pos exponent place)
    push_cast at this ⊢
    exact not_le.mp this
  have low_le : ((Interval.of m exponent).low : ℚ) ≤ 4 * m - 1 := by
    have : (Interval.of m exponent).low + 1 ≤ 4 * m := by
      unfold Interval.of
      dsimp only
      split <;> omega
    have : ((Interval.of m exponent).low + 1 : ℚ) ≤ 4 * m := by exact_mod_cast this
    linarith
  have low : (Interval.of m exponent).low * 2 ^ (exponent - 2) < (point * 10 ^ place : ℚ) := by
    have := mul_le_mul_of_nonneg_right low_le quarterPos.le
    push_cast at above
    linarith
  have high : (point * 10 ^ place : ℚ) < (Interval.of m exponent).high * 2 ^ (exponent - 2) := by
    rw [Binary64.high_eq]
    push_cast at below
    linarith
  rw [search, toRat]
  dsimp only
  rw [← found]
  unfold Interval.Contains
  split
  · exact ⟨low.le, high.le⟩
  · exact ⟨low, high⟩

end

/-- A number of 30103 decimal places has a hundred thousand binary ones, and at most one more. -/
theorem bits_of_places : (2 : ℚ) ^ (100000 : Int) ≤ 10 ^ (30103 : Int) ∧
    (10 : ℚ) ^ (30103 : Int) ≤ 2 ^ (100001 : Int) := by
  have least : 2 ^ 100000 ≤ 10 ^ 30103 := by decide +kernel
  have greatest : 10 ^ 30103 ≤ 2 ^ 100001 := by decide +kernel
  exact ⟨by exact_mod_cast least, by exact_mod_cast greatest⟩

/-- So decimal places are bounded by binary ones, as long as there are not too many of them. -/
theorem ten_zpow_le {bits places : Int} (few : bits ≤ 100000)
    (short : 100000 * places ≤ 30103 * bits) : (10 : ℚ) ^ places ≤ 2 ^ (bits + 1) := by
  obtain ⟨least, greatest⟩ := bits_of_places
  have bound : ((10 : ℚ) ^ (30103 : Int)) ^ bits ≤ 2 ^ (100000 * (bits + 1)) := by
    rcases le_or_gt 0 bits with nonneg | negative
    · calc ((10 : ℚ) ^ (30103 : Int)) ^ bits ≤ (2 ^ (100001 : Int)) ^ bits :=
            zpow_le_zpow_left₀ nonneg (by positivity) greatest
        _ = 2 ^ (100001 * bits) := (zpow_mul _ _ _).symm
        _ ≤ 2 ^ (100000 * (bits + 1)) := zpow_le_zpow_right₀ (by norm_num) (by omega)
    · obtain ⟨n, rfl⟩ : ∃ n : Nat, bits = -n := ⟨bits.natAbs, by omega⟩
      calc ((10 : ℚ) ^ (30103 : Int)) ^ (-(n : Int)) = ((10 ^ (30103 : Int)) ^ n)⁻¹ := by
            rw [zpow_neg, zpow_natCast]
        _ ≤ ((2 ^ (100000 : Int)) ^ n)⁻¹ :=
            inv_anti₀ (by positivity) (pow_le_pow_left₀ (by positivity) least n)
        _ = 2 ^ (100000 * -(n : Int)) := by rw [zpow_mul, zpow_neg, zpow_natCast]
        _ ≤ 2 ^ (100000 * (-(n : Int) + 1)) := zpow_le_zpow_right₀ (by norm_num) (by omega)
  -- To the power of a hundred thousand, the exponents are whole numbers on both sides.
  refine (pow_le_pow_iff_left₀ (by positivity) (by positivity) (show 100000 ≠ 0 by omega)).mp ?_
  calc ((10 : ℚ) ^ places) ^ 100000 = 10 ^ (places * 100000) := (zpow_mul _ _ _).symm
    _ ≤ 10 ^ (30103 * bits) := zpow_le_zpow_right₀ (by norm_num) (by omega)
    _ = (10 ^ (30103 : Int)) ^ bits := zpow_mul _ _ _
    _ ≤ 2 ^ (100000 * (bits + 1)) := bound
    _ = (2 ^ (bits + 1)) ^ 100000 := by rw [mul_comm]; exact zpow_mul _ _ _

/-- The last grid of the search is as fine as the quarters of a number. -/
theorem last_grid_fine {m : Nat} {e : Int} (fits : Binary64.Fits m e) :
    (10 : ℚ) ^ (firstPlace m e - 20) ≤ 2 ^ (e - 2) := by
  have few : e ≤ 971 := fits.le_greatest
  have bits : m.log2 ≤ 52 := by
    have := fits.significand_lt
    by_cases zero : m = 0
    · simp [zero]
    · exact Nat.le_of_lt_succ ((Nat.log2_lt zero).mpr this)
  have first : (10 : ℚ) ^ (firstPlace m e - 1) ≤ 2 ^ (e + 53 + 1) := by
    apply ten_zpow_le (by omega)
    rw [firstPlace]
    omega
  calc (10 : ℚ) ^ (firstPlace m e - 20) = 10 ^ (firstPlace m e - 1) * 10 ^ (-19 : Int) := by
        rw [← zpow_add₀ (by norm_num)]
        congr 1
        omega
    _ ≤ 2 ^ (e + 53 + 1) * 2 ^ (-56 : Int) :=
        mul_le_mul first (by norm_num) (by positivity) (by positivity)
    _ = 2 ^ (e - 2) := by
        rw [← zpow_add₀ (by norm_num)]
        congr 1
        omega

theorem contains_shortest {m : Nat} {e : Int} (fits : Binary64.Fits m e) (positive : 0 < m) :
    (Interval.of m e).Contains e (shortest m e).toRat :=
  contains_search (contains_search_zero positive (last_grid_fine fits))

theorem shortest_digits_pos {m : Nat} {e : Int} (fits : Binary64.Fits m e) (positive : 0 < m) :
    0 < (shortest m e).digits := by
  have nonzero := Binary64.pos_of_contains positive (contains_shortest fits positive)
  by_contra zero
  rw [toRat, show (shortest m e).digits = 0 by omega, Nat.cast_zero, zero_mul] at nonzero
  exact nonzero.false

end Decimal

end PrismaEsdl
