import PrismaEsdl.Text.CodePoint

/-!
Dates and moments of the proleptic Gregorian calendar, from year 1 to year 9999, as documents may
hold them.
-/

namespace PrismaEsdl

/-- A calendar date. -/
structure Date where
  year : Nat
  month : Nat
  day : Nat
  deriving DecidableEq, Repr

namespace Date

def isLeapYear (year : Nat) : Bool :=
  year % 4 == 0 && (year % 100 != 0 || year % 400 == 0)

/-- The number of days of a month; none has day 1 where there is no such month. -/
def daysInMonth (year month : Nat) : Nat :=
  match month with
  | 1 | 3 | 5 | 7 | 8 | 10 | 12 => 31
  | 4 | 6 | 9 | 11 => 30
  | 2 => if isLeapYear year then 29 else 28
  | _ => 0

/-- The date with a year, a month and a day, if there is one. -/
def of? (year month day : Nat) : Option Date :=
  if 1 ≤ year ∧ year ≤ 9999 ∧ 1 ≤ day ∧ day ≤ daysInMonth year month then
    some ⟨year, month, day⟩
  else none

/-- The number of days from the first day of the first year to the first day of a year. -/
def daysBefore (year : Nat) : Nat :=
  let past := year - 1
  past * 365 + past / 4 - past / 100 + past / 400

/-- The number of days from the first day of the first year. -/
def dayNumber (date : Date) : Nat :=
  daysBefore date.year + ((List.range (date.month - 1)).map fun month =>
    daysInMonth date.year (month + 1)).foldl (· + ·) 0 + (date.day - 1)

/-- Year, month and day between hyphens. -/
def toText (date : Date) : Text :=
  Text.padded 4 (Text.ofNat date.year) ++ "-" ++ Text.padded 2 (Text.ofNat date.month) ++ "-"
    ++ Text.padded 2 (Text.ofNat date.day)

end Date

/-- A date and a time of day, possibly with its offset from universal time in minutes. -/
structure Moment where
  date : Date
  hour : Nat
  minute : Nat
  second : Nat
  microsecond : Nat
  offset : Option Int
  deriving DecidableEq, Repr

namespace Moment

/-- The moment with the given parts: a time of day within one day, and an offset of less than a
day either way. -/
def of? (date : Date) (hour minute second microsecond : Nat) (offset : Option Int) :
    Option Moment :=
  if hour < 24 ∧ minute < 60 ∧ second < 60 ∧ ∀ minutes ∈ offset, minutes.natAbs < 1440 then
    some ⟨date, hour, minute, second, microsecond, offset⟩
  else none

/-- The number of minutes from the beginning of the first day, without the offset. -/
def minuteNumber (m : Moment) : Nat := (m.date.dayNumber * 24 + m.hour) * 60 + m.minute

/-- Whether two moments are the same. With offsets they are if they are the same in universal
time; a moment with an offset is never the same as one without. -/
def isSame (m n : Moment) : Bool :=
  m.second == n.second && m.microsecond == n.microsecond &&
    match m.offset, n.offset with
    | none, none => m.minuteNumber == n.minuteNumber
    | some offset, some offset' =>
      (m.minuteNumber - offset : Int) == (n.minuteNumber - offset' : Int)
    | _, _ => false

/-- An offset as sign, hours and minutes. -/
def offsetText (minutes : Int) : Text :=
  let sign : Text := if minutes < 0 then "-" else "+"
  sign ++ Text.padded 2 (Text.ofNat (minutes.natAbs / 60)) ++ ":"
    ++ Text.padded 2 (Text.ofNat (minutes.natAbs % 60))

/-- Date and time with a blank between; the fraction of the second is left out where it is zero. -/
def toText (m : Moment) : Text :=
  let fraction : Text :=
    if m.microsecond = 0 then "" else "." ++ Text.padded 6 (Text.ofNat m.microsecond)
  let offset : Text := match m.offset with
    | none => ""
    | some minutes => offsetText minutes
  m.date.toText ++ " " ++ Text.padded 2 (Text.ofNat m.hour) ++ ":"
    ++ Text.padded 2 (Text.ofNat m.minute) ++ ":" ++ Text.padded 2 (Text.ofNat m.second)
    ++ fraction ++ offset

end Moment

end PrismaEsdl
