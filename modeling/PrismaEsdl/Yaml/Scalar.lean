import PrismaEsdl.Decimal.Written
import PrismaEsdl.Document.Basic
import PrismaEsdl.Text.Base64
import PrismaEsdl.Text.Case
import PrismaEsdl.Yaml.Kind

/-!
What scalars stand for. A plain scalar is null, a boolean, a number, a date or a moment if it is
written like one, and a text otherwise; any other scalar is a text unless a tag says more.

Numbers may have underscores between their digits. An integer is written in base 2 after `0b`, in
base 16 after `0x`, in base 8 after a zero, in base 60 with colons between the digits, else in base
10. A number with a fraction has a point; its exponent has a sign. A scalar with a tag that names
the kind of a number may be written more freely: `Text.integer?` and `Binary64.ofText?` say how.
-/

namespace PrismaEsdl.Yaml

namespace Scalar

/-! ### Words -/

/-- The words for the two truth values. -/
def boolValues : List (Text × Bool) := [
  ("yes", true), ("no", false), ("true", true), ("false", false), ("on", true), ("off", false)]

/-- The same words in lower case, with a capital and in capitals. -/
def boolWords : List Text := [
  "yes", "Yes", "YES", "no", "No", "NO", "true", "True", "TRUE", "false", "False", "FALSE", "on",
  "On", "ON", "off", "Off", "OFF"]

def nullWords : List Text := ["", "~", "null", "Null", "NULL"]

def infinityWords : List Text := [".inf", ".Inf", ".INF"]

def notANumberWords : List Text := [".nan", ".NaN", ".NAN"]

/-! ### Numbers -/

/-- A text without its sign. -/
def unsigned (t : Text) : Text := (Text.splitSign t).2

def withoutUnderscores (t : Text) : Text := t.filter (· != .char '_')

/-- Whether a text is not empty and has nothing but some characters. -/
def isMadeOf (characters : String) (t : Text) : Bool :=
  !t.isEmpty && t.all (·.isAmong characters)

/-- A digit, and digits and underscores after it. -/
def isWhole : Text → Bool
  | [] => false
  | p :: rest => p.isDigit && rest.all (·.isAmong "0123456789_")

/-- A digit in base 60, written with one or two decimal digits. -/
def isSixtieth : Text → Bool
  | [p] => p.isDigit
  | [p, q] => p.isAmong "012345" && q.isDigit
  | _ => false

/-- Whole digits, and digits in base 60 after at least one colon. -/
def isSexagesimal (t : Text) : Bool :=
  match Text.split (.char ':') t with
  | first :: others => isWhole first && !others.isEmpty && others.all isSixtieth
  | [] => false

/-- Whether a plain scalar is written like an integer. -/
def isInteger (t : Text) : Bool :=
  match unsigned t with
  | [.char '0'] => true
  | .char '0' :: .char 'b' :: digits => isMadeOf "01_" digits
  | .char '0' :: .char 'x' :: digits => isMadeOf "0123456789abcdefABCDEF_" digits
  | .char '0' :: digits => isMadeOf "01234567_" digits
  | digits => isWhole digits || isSexagesimal digits

/-- Nothing, or an `e` with a sign and digits. -/
def isExponent : Text → Bool
  | [] => true
  | e :: sign :: digits => e.isAmong "eE" && sign.isAmong "+-" && isMadeOf "0123456789" digits
  | _ => false

/-- Whether a plain scalar is written like a number with a fraction. -/
def isFraction (t : Text) : Bool :=
  match t.span (· != .char '.') with
  | ([], .char '.' :: rest) =>
    startsWith CodePoint.isDigit rest
      && isExponent (rest.dropWhile (·.isAmong "0123456789_"))
  | (whole, .char '.' :: rest) =>
    let exponent := rest.dropWhile (·.isAmong "0123456789_")
    (isWhole (unsigned whole) && isExponent exponent)
      || (isSexagesimal (unsigned whole) && exponent.isEmpty)
  | _ => false

def isFloat (t : Text) : Bool :=
  isFraction t || infinityWords.contains (unsigned t) || notANumberWords.contains t

/-- What was found, or the fault of a value that does not exist. -/
def orInvalid {α : Type} (found : Option α) : Except Fault α :=
  match found with
  | some value => .ok value
  | none => .error .invalidValue

/-- The parts between colons, each one a number in base 60. -/
def sexagesimalParts (t : Text) : List Text := Text.split (.char ':') t

/-- The integer without a sign before it. -/
def magnitude (t : Text) : Except Fault Int :=
  match t with
  | [] => .error .noDigits
  | [.char '0'] => .ok 0
  | .char '0' :: .char 'b' :: digits => orInvalid (Text.integer? 2 digits)
  | .char '0' :: .char 'x' :: digits => orInvalid (Text.integer? 16 digits)
  | .char '0' :: _ => orInvalid (Text.integer? 8 t)
  | _ => do
    let parts ← orInvalid ((sexagesimalParts t).mapM (Text.integer? 10))
    return parts.foldl (fun n part => n * 60 + part) 0

def int (t : Text) : Except Fault Int := do
  let (negative, digits) := Text.splitSign (withoutUnderscores t)
  let n ← magnitude digits
  return if negative then -n else n

/-- The sum of numbers with their weights in base 60, the last of them with weight one; the
products are added from the last to the first. A weight may be too large to be a number. -/
def sexagesimal (parts : List Binary64) : Except Fault Binary64 :=
  parts.reverse.zipIdx.foldlM (fun total (part, i) =>
    match Binary64.ofNat (Nat.pow 60 i) with
    | .infinite _ => .error .overflow
    | weight => .ok (total.sum (part.product weight))) (.ofNat 0)

/-- A text in which a number with a fraction is read. -/
def bareFloat (t : Text) : Text := Text.lowerAscii (withoutUnderscores t)

/-- Whether the word that stands for no number is written. All scalars with it are the same key,
while any other scalar that is no number is a key of its own. -/
def isNotANumberWord (t : Text) : Bool := unsigned (bareFloat t) == ".nan"

/-- The number without a sign before it. -/
def floatMagnitude (t : Text) : Except Fault Binary64 :=
  if t = ".inf" then .ok (.infinite false)
  else if t = ".nan" then .ok .notANumber
  else
    match (sexagesimalParts t).mapM Binary64.ofText? with
    | some [x] => .ok x
    | some parts => sexagesimal parts
    | none => .error .invalidValue

def float (t : Text) : Except Fault Binary64 := do
  let bare := bareFloat t
  if bare.isEmpty then .error .noDigits
  let (negative, digits) := Text.splitSign bare
  let x ← floatMagnitude digits
  return if negative then x.negate else x

/-! ### Dates and moments -/

/-- The parts of a date, and of the time of day if there is one. -/
structure Timestamp where
  year : Nat
  month : Nat
  day : Nat
  time : Option (Nat × Nat × Nat × Nat × Option Int)

/-- One or two digits, or a given number of them, and what follows. -/
def takeNumber (least most : Nat) (t : Text) : Option (Nat × Text) :=
  let digits := (t.take most).takeWhile CodePoint.isDigit
  if digits.length < least then none
  else (Text.toNat? 10 digits).map (·, t.drop digits.length)

/-- A character, and what follows. -/
def take (p : Char) : Text → Option Text
  | q :: rest => if q = .char p then some rest else none
  | [] => none

/-- The first six digits of a fraction, filled with zeros: the microseconds. -/
def microseconds (digits : Text) : Nat :=
  (Text.toNat? 10 ((digits ++ Text.zeros 6).take 6)).getD 0

/-- What follows the time of day: nothing, a `Z`, or an offset in hours and minutes. -/
def offset? (t : Text) : Option (Option Int) :=
  match t.dropWhile isBlank with
  | [] => if t.isEmpty then some none else none
  | [.char 'Z'] => some (some 0)
  | sign :: rest =>
    if sign.isAmong "+-" then do
      let (hours, rest) ← takeNumber 1 2 rest
      let minutes ← match rest with
        | .char ':' :: rest => do
          let (minutes, rest) ← takeNumber 2 2 rest
          if rest.isEmpty then some minutes else none
        | [] => some 0
        | _ => none
      let total : Int := hours * 60 + minutes
      return some (if sign = .char '-' then -total else total)
    else none

/-- The time of day, after what separates it from the date. -/
def time? (t : Text) : Option (Nat × Nat × Nat × Nat × Option Int) := do
  let (hour, rest) ← takeNumber 1 2 t
  let (minute, rest) ← takeNumber 2 2 (← take ':' rest)
  let (second, rest) ← takeNumber 2 2 (← take ':' rest)
  let (fraction, rest) := match rest with
    | .char '.' :: rest => rest.span CodePoint.isDigit
    | rest => ([], rest)
  return (hour, minute, second, microseconds fraction, ← offset? rest)

/-- What separates the time of day from the date is left out: a `T` of either case, or blanks. -/
def skipSeparator? : Text → Option Text
  | .char 'T' :: rest | .char 't' :: rest => some rest
  | p :: rest => if isBlank p then some (rest.dropWhile isBlank) else none
  | [] => none

/-- The parts of a timestamp. -/
def timestamp? (t : Text) : Option Timestamp := do
  let (year, rest) ← takeNumber 4 4 t
  let (month, monthRest) ← takeNumber 1 2 (← take '-' rest)
  let (day, rest) ← takeNumber 1 2 (← take '-' monthRest)
  if rest.isEmpty then return { year, month, day, time := none }
  else
    let time ← time? (← skipSeparator? rest)
    return { year, month, day, time := some time }

/-- The date or moment with given parts, if there is one. -/
def Timestamp.document? (parts : Timestamp) : Option Document := do
  let date ← Date.of? parts.year parts.month parts.day
  match parts.time with
  | none => return .date date
  | some (hour, minute, second, microsecond, offset) =>
    return .moment (← Moment.of? date hour minute second microsecond offset)

/-- Whether a plain scalar is written like a timestamp. A date alone has two digits for month and
day. -/
def isTimestamp (t : Text) : Bool :=
  match timestamp? t with
  | some parts => parts.time.isSome || t.length == 10
  | none => false

/-! ### Kinds and values -/

/-- The marks that begin other tokens. Alone they have a kind without a meaning. -/
def markWords : List Text := ["!", "&", "*"]

/-- The kind that a word is written like. -/
def wordKind (t : Text) : Kind :=
  if boolWords.contains t then .bool
  else if isFloat t then .float
  else if isInteger t then .int
  else if t = "<<" then .merge
  else if nullWords.contains t then .null
  else if isTimestamp t then .moment
  else if t = "=" then .whole
  else if markWords.contains t then .unknown
  else .text

/-- The kind that a scalar is written like. A line feed at its end counts only if it is alone. -/
def kind (t : Text) : Kind := if t = "\n" then .text else wordKind t.withoutLastBreak

/-- The truth value of a word in any case. -/
def bool (t : Text) : Except Fault Bool :=
  match boolValues.find? (·.1 = Text.lowerAscii t) with
  | some (_, b) => .ok b
  | none => .error .unknownWord

def moment (t : Text) : Except Fault Document :=
  match timestamp? t.withoutLastBreak with
  | some parts => orInvalid parts.document?
  | none => .error .noMoment

/-- The bytes that ASCII text writes. -/
def bytes (t : Text) : Except Fault (List UInt8) :=
  match Text.Base64.decode? t with
  | some b => if t.all (·.value < 0x80) then .ok b else .error .malformed
  | none => .error .malformed

/-- The value of a scalar of some kind. -/
def value (kind : Kind) (t : Text) : Except Fault Document :=
  match kind with
  | .null => .ok .null
  | .bool => .bool <$> bool t
  | .int => .int <$> int t
  | .float => .float <$> float t
  | .moment => moment t
  | .text => .ok (.text t)
  | .bytes => .bytes <$> bytes t
  | .sequence | .mapping | .set | .pairs | .merge | .whole | .unknown => .error .malformed

end Scalar

end PrismaEsdl.Yaml
