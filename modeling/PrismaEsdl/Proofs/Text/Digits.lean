import Mathlib.Data.List.Basic
import Mathlib.Data.List.Induction
import Mathlib.Data.List.TakeDrop
import Mathlib.Tactic.IntervalCases
import PrismaEsdl.Text.Case
import PrismaEsdl.Text.Number

/-!
Runs of digits: what is written in a base is read again (`toNat?_toDigits`), and zeros count at the
end of a run only.

A numeral (`IsNumeral`) starts with a digit and has nothing but the characters of numbers; no blank
and no sign has to be taken off before it is read.
-/

namespace PrismaEsdl

namespace Text

/-! ### Runs -/

section

variable {kind : CodePoint → Bool} {run rest : Text}

/-- A run ends where something of another kind follows. -/
theorem takeWhile_append (all : ∀ p ∈ run, kind p = true)
    (ends : ∀ p ∈ rest.head?, kind p = false) :
    (run ++ rest).takeWhile kind = run := by
  rw [List.takeWhile_append_of_pos all]
  cases rest with
  | nil => simp
  | cons p rest => simp [ends p rfl]

theorem dropWhile_append (all : ∀ p ∈ run, kind p = true)
    (ends : ∀ p ∈ rest.head?, kind p = false) :
    (run ++ rest).dropWhile kind = rest := by
  rw [List.dropWhile_append_of_pos all]
  cases rest with
  | nil => rfl
  | cons p rest => simp [ends p rfl]

theorem span_append (all : ∀ p ∈ run, kind p = true) (ends : ∀ p ∈ rest.head?, kind p = false) :
    (run ++ rest).span kind = (run, rest) := by
  rw [List.span_eq_takeWhile_dropWhile, takeWhile_append all ends, dropWhile_append all ends]

end

end Text

namespace CodePoint

/-- A digit is the character of a number below ten. -/
theorem isDigit_iff {p : CodePoint} : p.isDigit = true ↔ ∃ d < 10, p = .char (Nat.digitChar d) := by
  constructor
  · intro digit
    cases p with
    | surrogate _ => cases digit
    | char c =>
        have range : c.isDigit = true := by
          by_contra other
          simp [isDigit, digit?, other] at digit
        have bounds : 48 ≤ c.toNat ∧ c.toNat ≤ 57 := by
          simpa [Char.isDigit, UInt32.le_iff_toNat_le] using range
        refine ⟨c.toNat - 48, by omega, congrArg _ (Char.toNat_inj.mp ?_)⟩
        rw [Nat.toNat_digitChar_of_lt_ten (by omega)]
        omega
  · rintro ⟨d, small, rfl⟩
    interval_cases d <;> rfl

/-- What holds of ten characters holds of the digits. -/
theorem of_isDigit (holds : CodePoint → Bool) {p : CodePoint} (digit : p.isDigit = true)
    (all : ∀ d < 10, holds (.char (Nat.digitChar d)) = true) : holds p = true := by
  obtain ⟨d, small, rfl⟩ := isDigit_iff.mp digit
  exact all d small

@[simp] theorem hexDigit?_digitChar {d : Nat} (small : d < 16) :
    hexDigit? (.char (Nat.digitChar d)) = some d := by
  interval_cases d <;> rfl

end CodePoint

namespace Text

theorem toNat?_concat (base : Nat) (digits : Text) (p : CodePoint) :
    toNat? base (digits ++ [p]) = (toNat? base digits).bind fun n =>
      p.hexDigit?.bind fun d => if d < base then some (n * base + d) else none := by
  simp [toNat?, List.foldlM_append]

theorem toNat?_concat_digitChar {base d n : Nat} {digits : Text}
    (known : toNat? base digits = some n) (small : d < base) (base_le : base ≤ 16) :
    toNat? base (digits ++ [.char (Nat.digitChar d)]) = some (n * base + d) := by
  simp [toNat?_concat, known, small, Nat.lt_of_lt_of_le small base_le]

/-- The digits of a number in a base are read as the number. -/
theorem toNat?_toDigits {base : Nat} (one_lt : 1 < base) (base_le : base ≤ 16) (n : Nat) :
    toNat? base ((Nat.toDigits base n).map .char) = some n := by
  induction n using Nat.strongRecOn with
  | ind n ih =>
    rw [Nat.toDigits_eq_if one_lt]
    split
    next small =>
      have empty : toNat? base [] = some 0 := rfl
      simpa using toNat?_concat_digitChar empty small base_le
    next large =>
      have positive : 0 < n := by omega
      rw [List.map_append]
      have := toNat?_concat_digitChar (ih _ (Nat.div_lt_self positive one_lt))
        (Nat.mod_lt n (by omega)) base_le
      rwa [Nat.div_add_mod'] at this

@[simp] theorem toNat?_ofNat (n : Nat) : toNat? 10 (ofNat n) = some n :=
  toNat?_toDigits (by decide) (by decide) n

/-- Each digit of a number in a base is the character of a number below the base. -/
theorem exists_of_mem_toDigits {base n : Nat} (one_lt : 1 < base) {c : Char}
    (member : c ∈ Nat.toDigits base n) : ∃ d < base, c = Nat.digitChar d := by
  induction n using Nat.strongRecOn with
  | ind n ih =>
    rw [Nat.toDigits_eq_if one_lt] at member
    split at member
    next small => exact ⟨n, small, List.mem_singleton.mp member⟩
    next large =>
      rcases List.mem_append.mp member with earlier | last
      · exact ih (n / base) (Nat.div_lt_self (by omega) one_lt) earlier
      · exact ⟨n % base, Nat.mod_lt n (by omega), List.mem_singleton.mp last⟩

/-! ### Digits -/

/-- Whether a text is a run of decimal digits. -/
def IsDigits (t : Text) : Prop := ∀ p ∈ t, p.isDigit = true

theorem isDigits_ofNat (n : Nat) : IsDigits (ofNat n) := by
  intro p member
  obtain ⟨c, digit, rfl⟩ := List.mem_map.mp member
  have := Nat.isDigit_of_mem_toDigits (by decide) (by decide) digit
  simp [CodePoint.isDigit, CodePoint.digit?, this]

theorem ofNat_ne_nil (n : Nat) : ofNat n ≠ [] := by
  simp [ofNat, Nat.toDigits_ne_nil]

theorem length_ofNat_le {n k : Nat} (positive : 0 < k) (small : n < Nat.pow 10 k) :
    (ofNat n).length ≤ k := by
  rw [Nat.pow_eq] at small
  rw [ofNat, List.length_map]
  exact (Nat.length_toDigits_le_iff (by decide) positive).mpr small

theorem isDigits_zeros (n : Nat) : IsDigits (zeros n) := by
  intro p member
  rw [List.eq_of_mem_replicate member]
  rfl

/-- The digits of a positive number do not begin with a zero. -/
theorem ofNat_head_ne_zero {n : Nat} (positive : 0 < n) : (ofNat n).head? ≠ some (.char '0') := by
  induction n using Nat.strongRecOn with
  | ind n ih =>
    rw [ofNat, Nat.toDigits_eq_if (by decide)]
    split
    next small => interval_cases n <;> simp [Nat.digitChar]
    next large =>
      have := ih (n / 10) (by omega) (by omega)
      rwa [List.map_append, ← ofNat, List.head?_append_of_ne_nil _ (ofNat_ne_nil (n / 10))]

/-- A run of decimal digits writes a number. -/
theorem IsDigits.exists_toNat? {t : Text} (digits : IsDigits t) : ∃ n, toNat? 10 t = some n := by
  induction t using List.reverseRecOn with
  | nil => exact ⟨0, rfl⟩
  | append_singleton t p ih =>
    obtain ⟨n, known⟩ := ih fun q member => digits q (List.mem_append_left _ member)
    obtain ⟨d, small, rfl⟩ := CodePoint.isDigit_iff.mp (digits p (by simp))
    exact ⟨_, toNat?_concat_digitChar known small (by decide)⟩

theorem toNat?_append_zeros {t : Text} {n : Nat} (known : toNat? 10 t = some n) (k : Nat) :
    toNat? 10 (t ++ zeros k) = some (n * 10 ^ k) := by
  induction k with
  | zero => simpa [zeros] using known
  | succ k ih =>
    rw [zeros, List.replicate_succ', ← List.append_assoc]
    have := toNat?_concat_digitChar ih (show 0 < 10 by decide) (by decide)
    rw [Nat.add_zero, Nat.mul_assoc, ← Nat.pow_succ] at this
    exact this

theorem toNat?_zeros_append {base : Nat} (positive : 0 < base) (k : Nat) (t : Text) :
    toNat? base (zeros k ++ t) = toNat? base t := by
  induction k with
  | zero => rfl
  | succ k ih =>
    have zero : (CodePoint.char '0').hexDigit? = some 0 := rfl
    rw [← ih, zeros, List.replicate_succ, List.cons_append, toNat?, List.foldlM_cons, zero]
    simp [positive, toNat?, zeros]

theorem length_ofNatHex {n : Nat} (small : n < 0x10000) : (ofNatHex 4 n).length = 4 := by
  have : (Nat.toDigits 16 n).length ≤ 4 :=
    (Nat.length_toDigits_le_iff (by decide) (by decide)).mpr small
  simp only [ofNatHex, padded, zeros, List.length_append, List.length_replicate, List.length_map]
  omega

theorem toNat?_ofNatHex (width n : Nat) : toNat? 16 (ofNatHex width n) = some n := by
  rw [ofNatHex, padded, toNat?_zeros_append (by decide), toNat?_toDigits (by decide) (by decide)]

/-- What is read as a number in a base has nothing but the digits of a base. -/
theorem hexDigit?_of_toNat?_eq_some {base : Nat} {t : Text} {n : Nat}
    (known : toNat? base t = some n) : ∀ p ∈ t, ∃ d, p.hexDigit? = some d := by
  induction t using List.reverseRecOn generalizing n with
  | nil => exact nofun
  | append_singleton t p ih =>
    rw [toNat?_concat] at known
    obtain ⟨m, front, last⟩ := Option.bind_eq_some_iff.mp known
    obtain ⟨d, digit, -⟩ := Option.bind_eq_some_iff.mp last
    intro q member
    rcases List.mem_append.mp member with earlier | last
    · exact ih front q earlier
    · exact ⟨d, List.mem_singleton.mp last ▸ digit⟩

end Text

/-! ### Numerals -/

namespace CodePoint

theorem isAmong_iff {p : CodePoint} {characters : String} :
    p.isAmong characters = true ↔ ∃ c ∈ characters.toList, p = .char c := by
  cases p with
  | char c => simp [isAmong]
  | surrogate _ => simp [isAmong]

/-- What holds of some characters holds of a code point among them. -/
theorem of_isAmong (holds : CodePoint → Bool) {p : CodePoint} {characters : String}
    (among : p.isAmong characters = true)
    (all : characters.toList.all (fun c => holds (.char c)) = true) : holds p = true := by
  obtain ⟨c, listed, rfl⟩ := isAmong_iff.mp among
  exact List.all_eq_true.mp all c listed

/-- The characters that decimal numbers are written with. -/
def isNumeric (p : CodePoint) : Bool := p.isAmong "0123456789+-.e"

theorem isNumeric_of_isDigit {p : CodePoint} (digit : p.isDigit = true) : p.isNumeric = true :=
  of_isDigit isNumeric digit (by decide)

end CodePoint

namespace Text

/-- Whether a text has nothing but the characters of numbers. -/
def IsNumeric (t : Text) : Prop := ∀ p ∈ t, p.isNumeric = true

theorem IsNumeric.lowerAscii {t : Text} (numeric : IsNumeric t) : lowerAscii t = t := by
  have same (p : CodePoint) (member : p ∈ t) : p.lowerAscii = [p] := by
    have := CodePoint.of_isAmong (fun p => p.lowerAscii == [p]) (numeric p member)
      (by decide)
    simpa using this
  rw [Text.lowerAscii, List.flatMap_congr same, List.flatMap_singleton']

theorem IsNumeric.not_mem {t : Text} (numeric : IsNumeric t) {p : CodePoint}
    (other : p.isNumeric = false) : p ∉ t := by
  intro member
  simp [numeric p member] at other

/-- A digit with nothing but the characters of numbers after it. -/
structure IsNumeral (t : Text) : Prop where
  startsWithDigit : ∃ p rest, t = p :: rest ∧ p.isDigit = true
  numeric : IsNumeric t

namespace IsNumeral

variable {t : Text}

theorem of_digits (nonempty : t ≠ []) (digits : IsDigits t) : IsNumeral t := by
  obtain ⟨p, rest, rfl⟩ := List.exists_cons_of_ne_nil nonempty
  exact ⟨⟨p, rest, rfl, digits p List.mem_cons_self⟩,
    fun q member => CodePoint.isNumeric_of_isDigit (digits q member)⟩

theorem ofNat (n : Nat) : IsNumeral (ofNat n) := of_digits (ofNat_ne_nil n) (isDigits_ofNat n)

theorem append {u : Text} (numeral : IsNumeral t) (numeric : IsNumeric u) :
    IsNumeral (t ++ u) := by
  obtain ⟨⟨p, rest, rfl, digit⟩, before⟩ := numeral
  refine ⟨⟨p, rest ++ u, rfl, digit⟩, fun q member => ?_⟩
  rcases List.mem_append.mp member with left | right
  · exact before q left
  · exact numeric q right

theorem splitSign (numeral : IsNumeral t) : splitSign t = (false, t) := by
  obtain ⟨⟨p, rest, rfl, digit⟩, _⟩ := numeral
  obtain ⟨d, small, rfl⟩ := CodePoint.isDigit_iff.mp digit
  interval_cases d <;> rfl

theorem bareNumber (numeral : IsNumeral t) : bareNumber t = t := by
  have solid (p : CodePoint) (member : p ∈ t) : p.isNumberBlank = false := by
    have := CodePoint.of_isAmong (fun p => !p.isNumberBlank) (numeral.numeric p member)
      (by decide)
    simpa using this
  have same (p : CodePoint) (member : p ∈ t) : asciiDigit p = p := by
    have := CodePoint.of_isAmong (fun p => asciiDigit p == p) (numeral.numeric p member)
      (by decide)
    simpa using this
  have front (u : Text) (part : ∀ p ∈ u, p ∈ t) : u.dropWhile CodePoint.isNumberBlank = u := by
    cases u with
    | nil => rfl
    | cons p rest => simp [solid p (part p List.mem_cons_self)]
  rw [Text.bareNumber, front t fun _ member => member, front t.reverse (by simp),
    List.reverse_reverse]
  exact List.map_congr_left same |>.trans t.map_id

end IsNumeral

end Text

end PrismaEsdl
