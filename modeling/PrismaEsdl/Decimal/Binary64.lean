/-!
Binary64 numbers as data: sign, significand and exponent, so that rounding, reading and printing
are arithmetic on natural numbers. Every operation takes the exact result and rounds it once, to
the nearest number, a tie to the even significand.
-/

namespace PrismaEsdl

/-- A binary64 number; a finite one is its significand times a power of two. -/
inductive Binary64 where
  | finite (negative : Bool) (significand : Nat) (exponent : Int)
  | infinite (negative : Bool)
  | notANumber
  deriving DecidableEq, Inhabited, Repr

namespace Binary64

/-- The exponent of the least positive number. -/
def leastExponent : Int := -1074

/-- The exponent of the greatest finite numbers. -/
def greatestExponent : Int := 971

/-- The least significand of 53 bits. -/
def leastNormal : Nat := Nat.pow 2 52

/-- A quotient `num / den` over `2 ^ exponent`, as a quotient of natural numbers. -/
def scaled (num den : Nat) (exponent : Int) : Nat × Nat :=
  (num * Nat.pow 2 (-exponent).toNat, den * Nat.pow 2 exponent.toNat)

/-- The whole number nearest to a quotient; of two that are equally near, the even one. -/
def roundQuotient (num den : Nat) : Nat :=
  let quotient := num / den
  let twice := 2 * (num % den)
  if twice < den then quotient
  else if den < twice then quotient + 1
  else quotient + quotient % 2

/-- The exponent with which a positive quotient has a significand of 53 bits, or the least
exponent where that one is below it. -/
def exponentOf (num den : Nat) : Int :=
  let coarse : Int := num.log2 - den.log2 - 53
  let (n, d) := scaled num den coarse
  max leastExponent (if n / d < 2 * leastNormal then coarse else coarse + 1)

/-- The number nearest to `num / den`. -/
def nearest (negative : Bool) (num den : Nat) : Binary64 :=
  if num = 0 then .finite negative 0 leastExponent
  else
    let exponent := exponentOf num den
    let (n, d) := scaled num den exponent
    let significand := roundQuotient n d
    let (significand, exponent) :=
      if significand = 2 * leastNormal then (leastNormal, exponent + 1)
      else (significand, exponent)
    if exponent ≤ greatestExponent then .finite negative significand exponent
    else .infinite negative

/-- The number nearest to `digits · 10 ^ exponent`. Beyond 400 places either way the result is
infinite or zero whatever the digits are. -/
def ofDecimal (negative : Bool) (digits : Nat) (exponent : Int) : Binary64 :=
  let places : Int := exponent + (Nat.toDigits 10 digits).length
  if digits = 0 ∨ places < -400 then .finite negative 0 leastExponent
  else if 400 < places then .infinite negative
  else nearest negative (digits * Nat.pow 10 exponent.toNat) (Nat.pow 10 (-exponent).toNat)

def ofNat (n : Nat) : Binary64 := nearest false n 1

/-- The magnitude of a finite number as a quotient. -/
def magnitude (significand : Nat) (exponent : Int) : Nat × Nat :=
  scaled significand 1 (-exponent)

/-- The magnitude of a quotient with its sign. -/
def signed (negative : Bool) (n : Nat) : Int := if negative then -n else n

/-- The sum of two numbers; zeros of different signs and numbers that cancel out give the positive
zero. -/
def sum : Binary64 → Binary64 → Binary64
  | .finite negative m e, .finite negative' m' e' =>
    let (n, d) := magnitude m e
    let (n', d') := magnitude m' e'
    let total := signed negative (n * d') + signed negative' (n' * d)
    nearest (decide (total < 0) || (negative && negative')) total.natAbs (d * d')
  | .infinite negative, .infinite negative' =>
    if negative = negative' then .infinite negative else .notANumber
  | .infinite negative, .finite .. | .finite .., .infinite negative => .infinite negative
  | .notANumber, _ | _, .notANumber => .notANumber

/-- The product of two numbers. -/
def product : Binary64 → Binary64 → Binary64
  | .finite negative m e, .finite negative' m' e' =>
    let (n, d) := magnitude m e
    let (n', d') := magnitude m' e'
    nearest (negative != negative') (n * n') (d * d')
  | .infinite negative, .infinite negative' => .infinite (negative != negative')
  | .infinite negative, .finite negative' m _ | .finite negative' m _, .infinite negative =>
    if m = 0 then .notANumber else .infinite (negative != negative')
  | .notANumber, _ | _, .notANumber => .notANumber

/-- A number with the opposite sign. -/
def negate : Binary64 → Binary64
  | .finite negative m e => .finite (!negative) m e
  | .infinite negative => .infinite (!negative)
  | .notANumber => .notANumber

def isZero : Binary64 → Bool
  | .finite _ m _ => m == 0
  | _ => false

/-- Whether a number is a given integer. -/
def isInteger (i : Int) : Binary64 → Bool
  | .finite negative m e =>
    let (n, d) := magnitude m e
    n == d * i.natAbs && (m == 0 || negative == decide (i < 0))
  | _ => false

end Binary64

end PrismaEsdl
