import PrismaEsdl.Decimal.Shortest
import PrismaEsdl.Text.Case
import PrismaEsdl.Text.Number

/-!
Numbers as text: how the digits of a number are laid out, and how a number is read from text.
-/

namespace PrismaEsdl

/-- How a finite number is laid out. The leading place is the power of ten of the first digit. -/
structure NumberStyle where
  /-- The least leading place that is written without an exponent. -/
  positionalFrom : Int
  /-- The greatest leading place that is written without an exponent. -/
  positionalTo : Int
  /-- What is written after a whole number. -/
  wholeSuffix : Text
  /-- The mark before the exponent. -/
  exponentMark : Text
  /-- The least number of digits of the exponent. -/
  exponentWidth : Nat
  infinity : Text
  notANumber : Text

/-- Numbers from 0.0001 to below 10 ^ 16 are written in full, a whole one with `.0`; others have an
exponent with its sign and at least two digits. -/
def NumberStyle.plain : NumberStyle where
  positionalFrom := -4
  positionalTo := 15
  wholeSuffix := ".0"
  exponentMark := "e"
  exponentWidth := 2
  infinity := "inf"
  notANumber := "nan"

namespace Decimal

/-- Digits with a point after the first `whole` of them, filled with zeros where they do not reach
the point. -/
def positional (style : NumberStyle) (digits : Text) (leading : Int) : Text :=
  if leading < 0 then
    "0." ++ Text.zeros (-leading - 1).toNat ++ digits
  else
    let whole := leading.toNat + 1
    if digits.length ≤ whole then
      digits ++ Text.zeros (whole - digits.length) ++ style.wholeSuffix
    else
      let (before, after) : Text × Text := digits.splitAt whole
      before ++ "." ++ after

/-- Digits with a point after the first, and an exponent. -/
def scientific (style : NumberStyle) (digits : Text) (leading : Int) : Text :=
  let (first, others) : Text × Text := digits.splitAt 1
  let fraction : Text := if others.isEmpty then [] else "." ++ others
  let sign : Text := if leading < 0 then "-" else "+"
  first ++ fraction ++ style.exponentMark ++ sign
    ++ Text.padded style.exponentWidth (Text.ofNat leading.natAbs)

/-- A positive decimal as text; zeros at the end of its digits are left out. -/
def toText (style : NumberStyle) (d : Decimal) : Text :=
  let digits := Text.ofNat d.digits
  let leading := d.exponent + digits.length - 1
  let digits := (digits.reverse.dropWhile (· == .char '0')).reverse
  if style.positionalFrom ≤ leading ∧ leading ≤ style.positionalTo then
    positional style digits leading
  else scientific style digits leading

end Decimal

namespace Binary64

/-- The sign that is written before a magnitude. -/
def minus (negative : Bool) : Text := if negative then "-" else ""

/-- A number as the shortest text that reads back as it. -/
def toText (x : Binary64) (style : NumberStyle) : Text :=
  match x with
  | .notANumber => style.notANumber
  | .infinite negative => minus negative ++ style.infinity
  | .finite negative 0 _ => minus negative ++ "0" ++ style.wholeSuffix
  | .finite negative m e => minus negative ++ (Decimal.shortest m e).toText style

/-! ### Reading -/

/-- The digits at the front of a text, and the rest. -/
def splitDigits (t : Text) : Text × Text := t.span (·.isDigit)

/-- The exponent after `e` or `E`; nothing at all stands for zero. -/
def exponent? : Text → Option Int
  | [] => some 0
  | .char 'e' :: rest | .char 'E' :: rest => do
    let (negative, digits) := Text.splitSign rest
    if digits.isEmpty then none
    else
      let n ← Text.toNat? 10 digits
      some (if negative then -n else n)
  | _ => none

/-- The number that digits, a point, more digits and an exponent write; there is at least one
digit, and the point and the exponent may be missing. -/
def ofDigits? (negative : Bool) (t : Text) : Option Binary64 := do
  let (whole, rest) := splitDigits t
  let (fraction, rest) := match rest with
    | .char '.' :: rest => splitDigits rest
    | rest => ([], rest)
  if whole.isEmpty && fraction.isEmpty then none
  else
    let exponent ← exponent? rest
    let digits ← Text.toNat? 10 (whole ++ fraction)
    some (ofDecimal negative digits (exponent - fraction.length))

/-- The words for infinity. -/
def infinityWords : List Text := ["inf", "infinity"]

/-- The number that a text writes: digits, or a word for infinity or for no number, after a sign
and between blanks. -/
def ofText? (t : Text) : Option Binary64 :=
  let (negative, written) := Text.splitSign (Text.bareNumber t)
  let word := Text.lowerAscii written
  if infinityWords.contains word then some (.infinite negative)
  else if word = "nan" then some .notANumber
  else ofDigits? negative written

end Binary64

end PrismaEsdl
