import PrismaEsdl.Decimal.Written
import PrismaEsdl.Document.Basic
import PrismaEsdl.Stack
import PrismaEsdl.Text.Number
import PrismaEsdl.Text.Quoted

/-!
The forms in which messages show a document: `display` gives a text as it is, `quoted` gives it in
quotes. Inside a collection everything is quoted. A collection within itself is shown as three dots
between its brackets. A document with an integer of too many digits is not shown, nor is one that
nests more deeply than there is room; the first such part on the way ends the showing.
-/

namespace PrismaEsdl

/-- A date as a constructor call. -/
def Date.quoted (date : Date) : Text :=
  "datetime.date(" ++ Text.join ", " [.ofNat date.year, .ofNat date.month, .ofNat date.day] ++ ")"

namespace Moment

/-- An offset as a constructor call; a negative one counts back from the day before. -/
def offsetQuoted (minutes : Int) : Text :=
  if minutes = 0 then "datetime.timezone.utc"
  else
    let days : Text := if minutes < 0 then "days=-1, " else ""
    "datetime.timezone(datetime.timedelta(" ++ days ++ "seconds="
      ++ Text.ofInt (minutes * 60 % 86400) ++ "))"

/-- A moment as a constructor call; seconds and microseconds are left out where nothing but zeros
would follow. -/
def quoted (m : Moment) : Text :=
  let fine : List Nat :=
    if m.microsecond ≠ 0 then [m.second, m.microsecond]
    else if m.second ≠ 0 then [m.second]
    else []
  let numbers := [m.date.year, m.date.month, m.date.day, m.hour, m.minute] ++ fine
  let offset := m.offset.toList.map fun minutes => "tzinfo=" ++ offsetQuoted minutes
  "datetime.datetime(" ++ Text.join ", " (numbers.map .ofNat ++ offset) ++ ")"

end Moment

namespace Document

def boolText (b : Bool) : Text := if b then "True" else "False"

/-- A collection within itself. -/
def Shape.dots : Shape → Text
  | list => "[...]"
  | tuple => "(...)"
  | object => "\x7b...\x7d"

/-- The shape of a collection that may contain itself. -/
def shape : Document → Shape
  | tuple _ | within _ .tuple => .tuple
  | object _ | within _ .object => .object
  | labelled _ collection => collection.shape
  | _ => .list

/-- A row of items between parentheses; a single item has a comma after it. -/
def rowText : List Text → Text
  | [item] => "(" ++ item ++ ",)"
  | items => "(" ++ Text.join ", " items ++ ")"

/-- The members of a set between braces; an empty set is a constructor call. -/
def setText : List Text → Text
  | [] => "set()"
  | members => "\x7b" ++ Text.join ", " members ++ "\x7d"

/-- A value without parts as it is shown. -/
def plainly (room : Nat) (t : Text) : Except Excess Text := do
  Stack.enter 1 room
  return t

/-- An integer as it is shown. -/
def numeral (room : Nat) (i : Int) : Except Excess Text := do
  Stack.enter 1 room
  if Text.isShowable i then return Text.ofInt i else throw .digits

mutual

/-- A value with its texts in quotes, inside the collections with some labels. -/
def quotedIn (around : List Nat) (room : Nat) : Document → Except Excess Text
  | null => plainly room "None"
  | bool b => plainly room (boolText b)
  | int i => numeral room i
  | float x => plainly room (x.toText .plain)
  | text t => plainly room t.quoted
  | bytes b => plainly room (Text.quotedBytes b)
  | date d => plainly room d.quoted
  | moment m => plainly room m.quoted
  | list items => do
    Stack.enter 1 room
    return "[" ++ Text.join ", " (← quotedItems around (room - 1) items) ++ "]"
  | tuple items => do
    Stack.enter 1 room
    return rowText (← quotedItems around (room - 1) items)
  | set members => do
    Stack.enter 1 room
    return setText (← quotedItems around (room - 2) members)
  | object entries => do
    Stack.enter 1 room
    return "\x7b" ++ Text.join ", " (← quotedEntries around (room - 1) entries) ++ "\x7d"
  | labelled label collection =>
    if around.contains label then plainly room collection.shape.dots
    else quotedIn (label :: around) room collection
  | within _ shape => plainly room shape.dots

def quotedItems (around : List Nat) (room : Nat) : List Document → Except Excess (List Text)
  | [] => .ok []
  | item :: rest => return (← quotedIn around room item) :: (← quotedItems around room rest)

def quotedEntries (around : List Nat) (room : Nat) :
    List (Document × Document) → Except Excess (List Text)
  | [] => .ok []
  | (key, content) :: rest => do
    let entry := (← quotedIn around room key) ++ ": " ++ (← quotedIn around room content)
    return entry :: (← quotedEntries around room rest)

end

/-- A value with its texts in quotes. -/
def quoted (room : Nat) (document : Document) : Except Excess Text := document.quotedIn [] room

/-- A value as it stands. -/
def display (room : Nat) : Document → Except Excess Text
  | text t => .ok t
  | date d => plainly room d.toText
  | moment m => plainly room m.toText
  | value => value.quoted room

mutual

/-- Whether every integer in a value can be shown. -/
def isShowable : Document → Bool
  | int i => Text.isShowable i
  | list items | tuple items | set items => areShowable items
  | object entries => areShowableEntries entries
  | labelled _ collection => collection.isShowable
  | _ => true

def areShowable : List Document → Bool
  | [] => true
  | item :: rest => item.isShowable && areShowable rest

def areShowableEntries : List (Document × Document) → Bool
  | [] => true
  | (key, content) :: rest => key.isShowable && content.isShowable && areShowableEntries rest

end

end Document

end PrismaEsdl
