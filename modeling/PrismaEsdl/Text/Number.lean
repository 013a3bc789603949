import PrismaEsdl.Text.CodePoint
import PrismaEsdl.Text.Ranges

/-!
Numbers as they are written: decimal digits of any script (Unicode 14.0), with blanks around them
and a sign before them. Before a number is read, its digits are made ASCII digits and the blanks
are dropped; `integer?` reads an integer in a base.
-/

namespace PrismaEsdl.CodePoint

/-- The zeros of the scripts that have decimal digits. The other nine digits follow each of them. -/
def zeros : List Nat := [
  0x30, 0x660, 0x6f0, 0x7c0, 0x966, 0x9e6, 0xa66, 0xae6, 0xb66, 0xbe6, 0xc66, 0xce6, 0xd66, 0xde6,
  0xe50, 0xed0, 0xf20, 0x1040, 0x1090, 0x17e0, 0x1810, 0x1946, 0x19d0, 0x1a80, 0x1a90, 0x1b50,
  0x1bb0, 0x1c40, 0x1c50, 0xa620, 0xa8d0, 0xa900, 0xa9d0, 0xa9f0, 0xaa50, 0xabf0, 0xff10, 0x104a0,
  0x10d30, 0x11066, 0x110f0, 0x11136, 0x111d0, 0x112f0, 0x11450, 0x114d0, 0x11650, 0x116c0,
  0x11730, 0x118e0, 0x11950, 0x11c50, 0x11d50, 0x11da0, 0x16a60, 0x16ac0, 0x16b50, 0x1d7ce,
  0x1d7d8, 0x1d7e2, 0x1d7ec, 0x1d7f6, 0x1e140, 0x1e2f0, 0x1e950, 0x1fbf0]

/-- The value of a decimal digit of any script. -/
def decimal? (p : CodePoint) : Option Nat :=
  (zeros.find? fun first => first ≤ p.value && p.value < first + 10).map (p.value - ·)

/-- Whether a code point is a decimal digit of any script. -/
def isDecimal (p : CodePoint) : Bool := p.decimal?.isSome

/-- The blanks that may stand around a number. -/
def numberBlanks : Text.Ranges := [
  (0x9, 0xd), (0x20, 0x20), (0x85, 0x85), (0xa0, 0xa0), (0x1680, 0x1680), (0x2000, 0x200a),
  (0x2028, 0x2029), (0x202f, 0x202f), (0x205f, 0x205f), (0x3000, 0x3000)]

def isNumberBlank (p : CodePoint) : Bool := numberBlanks.contains p.value

end PrismaEsdl.CodePoint

namespace PrismaEsdl.Text

/-- The greatest number of decimal digits with which an integer is read or shown. -/
def maxDigits : Nat := 4300

/-- Whether an integer can be shown. -/
def isShowable (i : Int) : Bool := i.natAbs < Nat.pow 10 maxDigits

/-- A sign, if there is one, and the rest. -/
def splitSign : Text → Bool × Text
  | .char '-' :: rest => (true, rest)
  | .char '+' :: rest => (false, rest)
  | rest => (false, rest)

/-- A digit of any script as an ASCII digit; any other code point as it is. -/
def asciiDigit (p : CodePoint) : CodePoint :=
  match p.decimal? with
  | some digit => .char (Nat.digitChar digit)
  | none => p

/-- A written number without the blanks around it and with ASCII digits. -/
def bareNumber (t : Text) : Text :=
  let front := t.dropWhile CodePoint.isNumberBlank
  ((front.reverse.dropWhile CodePoint.isNumberBlank).reverse).map asciiDigit

/-- Digits without the letter that may name their base after a zero. -/
def withoutBaseMark (base : Nat) : Text → Text
  | .char '0' :: mark :: rest =>
    let marks : String := if base = 16 then "xX" else if base = 8 then "oO"
      else if base = 2 then "bB" else ""
    if mark.isAmong marks then rest else .char '0' :: mark :: rest
  | digits => digits

/-- The integer that a text writes in a base. Decimal digits must not be too many. -/
def integer? (base : Nat) (t : Text) : Option Int :=
  let (negative, written) := splitSign (bareNumber t)
  let digits := withoutBaseMark base written
  if digits.isEmpty || (base == 10 && maxDigits < digits.length) then none
  else (toNat? base digits).map fun n => if negative then -n else n

end PrismaEsdl.Text
