import PrismaEsdl.Log.Event
import PrismaEsdl.Text.Number

/-!
How records are shown: a layout says where message, level and source of a record stand, a colour
is chosen from the level and from words in the message.
-/

namespace PrismaEsdl.Log

namespace Layout

/-- The parts of a record. -/
inductive Part where
  | message
  | level
  | source
  deriving DecidableEq, Repr

/-- The names of the parts that a layout may name. -/
def partNames : List (Text × Part) := [
  ("message", .message), ("levelname", .level), ("name", .source)]

/-- How a part is fitted in: filled with blanks on one side up to a width, after what is beyond a
greatest length is cut off. -/
structure Fitting where
  toLeft : Bool := false
  width : Nat := 0
  longest : Option Nat := none
  deriving DecidableEq, Repr

def Fitting.fit (fitting : Fitting) (t : Text) : Text :=
  let t := match fitting.longest with
    | some longest => t.take longest
    | none => t
  let blanks : Text := List.replicate (fitting.width - t.length) (.char ' ')
  if fitting.toLeft then t ++ blanks else blanks ++ t

/-- What may stand in a layout. -/
inductive Piece where
  | literal (p : CodePoint)
  | part (part : Part) (fitting : Fitting)
  deriving DecidableEq, Repr

end Layout

/-- The arrangement of a record on a line. -/
abbrev Layout := List Layout.Piece

namespace Layout

/-- The level, a colon and the message. -/
def plain : Layout :=
  [.part .level {}, .literal (.char ':'), .literal (.char ' '), .part .message {}]

/-! ### Reading

A field is a percent sign, a name in parentheses, flags, a width, a precision after a point, and a
letter; here the letter is `s`. Two percent signs stand for one. -/

/-- Why a text describes no layout. -/
inductive Fault where
  /-- It has no field, or a percent sign that starts none. -/
  | invalid
  /-- It has a percent sign that asks for another part, without its name. -/
  | unnamed
  deriving DecidableEq, Repr

/-- What is said about a text that asks for a part without its name. -/
def Fault.message? : Fault → Option Text
  | invalid => none
  | unnamed => some "not enough arguments for format string"

/-- The name in parentheses at the front of a text, and what follows. -/
def name? : Text → Option (Text × Text)
  | .char '(' :: rest =>
    match rest.span fun p => p.isDecimal || (p.isWord && p != .char '-') with
    | (p :: name, .char ')' :: rest) => some (p :: name, rest)
    | _ => none
  | _ => none

/-- How the flags, the width and the precision at the front of a text fit a part in, and what
follows. -/
def fitting (t : Text) : Fitting × Text :=
  let (flags, rest) := t.span (·.isAmong "#0+- ")
  let (width, rest) := rest.span CodePoint.isDigit
  let fitting : Fitting := {
    toLeft := flags.contains (.char '-'), width := (Text.toNat? 10 width).getD 0 }
  match rest with
  | .char '.' :: rest =>
    let (longest, rest) := rest.span CodePoint.isDigit
    ({ fitting with longest := Text.toNat? 10 longest }, rest)
  | rest => (fitting, rest)

/-- The field after a percent sign, and what follows. -/
def field (t : Text) : Except Fault (Piece × Text) :=
  match name? t with
  | some (name, rest) =>
    match partNames.find? (·.1 = name), fitting rest with
    | some (_, part), (fitting, .char 's' :: rest) => .ok (.part part fitting, rest)
    | _, _ => .error .invalid
  | none => .error .invalid

/-- The pieces of a text after a field or before all of them. Every step takes at least one code
point, so the length of the text bounds the steps. -/
def pieces (afterField : Bool) : Nat → Text → Except Fault Layout
  | _, [] => .ok []
  | 0, _ => .error .invalid
  | fuel + 1, .char '%' :: rest =>
    match rest with
    | .char '%' :: rest => return .literal (.char '%') :: (← pieces afterField fuel rest)
    | .char '(' :: _ => do
      let (piece, rest) ← field rest
      return piece :: (← pieces true fuel rest)
    | rest =>
      if afterField && !(fitting rest).2.isEmpty then .error .unnamed else .error .invalid
  | fuel + 1, p :: rest => return .literal p :: (← pieces afterField fuel rest)

/-- Whether a text starts like a field, whatever its name and its letter are. -/
def startsLikeField : Text → Bool
  | .char '%' :: rest =>
    match name? rest with
    | some (_, rest) =>
      let rest := rest.dropWhile (·.isAmong "#0+- ") |>.dropWhile CodePoint.isDigit
      let rest := match rest with
        | .char '.' :: p :: rest =>
          if p.isDigit then rest.dropWhile CodePoint.isDigit else .char '.' :: p :: rest
        | rest => rest
      match rest.head? with
      | some letter => letter.isAmong "diouxefgcrsaDIOUXEFGCRSA%"
      | none => false
    | none => false
  | _ => false

/-- Whether something in a text looks like a field, even where the percent sign before it makes it
a literal. -/
def hasField : Text → Bool
  | [] => false
  | p :: rest => startsLikeField (p :: rest) || hasField rest

/-- The layout that a text describes. An empty text stands for the message alone; any other has to
have a field. -/
def ofText (t : Text) : Except Fault Layout :=
  if t.isEmpty then .ok [.part .message {}]
  else if hasField t then pieces false t.length t
  else .error .invalid

/-! ### Filling in -/

/-- A part of a record from a source. -/
def Part.text (source : Text) (record : Record) : Part → Text
  | message => record.message
  | level => record.level.name
  | .source => source

def Piece.fill (source : Text) (record : Record) : Piece → Text
  | literal p => [p]
  | Piece.part content fitting => fitting.fit (content.text source record)

/-- A record from a source, as a layout arranges it. -/
def fill (layout : Layout) (source : Text) (record : Record) : Text :=
  layout.flatMap (Piece.fill source record)

end Layout

/-- The colours of a terminal. -/
inductive Colour where
  | red
  | yellow
  | magenta
  | cyan
  | brightGreen
  | brightBlue
  | brightCyan
  deriving DecidableEq, Repr

def Colour.number : Colour → Nat
  | red => 31
  | yellow => 33
  | magenta => 35
  | cyan => 36
  | brightGreen => 92
  | brightBlue => 94
  | brightCyan => 96

namespace Style

/-- The escape sequence that sets an attribute of the terminal. -/
def sequence (n : Nat) : Text := "\x1b[" ++ Text.ofNat n ++ "m"

def reset : Text := sequence 0

def bold : Text := sequence 1

def colour (c : Colour) : Text := sequence c.number

/-- Words that a message about a good end has. -/
def successWords : List Text :=
  ["complete", "successfully", "translated", "written", "done", "✓"]

/-- Words that a message about a step has. -/
def progressWords : List Text :=
  ["loading", "translating", "rendering", "writing", "normalizing", "→"]

/-- Words that a message about something remarkable has. -/
def highlightWords : List Text := ["found", "skipping", "dropping", "backlink"]

/-- Whether a message has one of some words, in whatever case. -/
def mentions (words : List Text) (message : Text) : Bool :=
  words.any fun word => word.isWithin message.lowerAscii

/-- Whether a message has a line of equals signs. -/
def hasRule (message : Text) : Bool := Text.isWithin (List.replicate 10 (.char '=')) message

/-- What is written before a record to colour it; nothing where it stays plain. A warning or an
error is coloured by its level; any other record by its message, and by its level if its message
does not decide. -/
def opening (record : Record) : Text :=
  if record.level = .error then colour .red
  else if record.level = .critical then colour .magenta
  else if record.level = .warning then colour .yellow
  else if hasRule record.message then bold ++ colour .brightCyan
  else if mentions successWords record.message then colour .brightGreen ++ bold
  else if mentions progressWords record.message then colour .brightBlue
  else if mentions highlightWords record.message then colour .brightCyan
  else if record.level = .debug then colour .cyan
  else []

end Style

/-- How records are shown. -/
structure Style where
  layout : Layout
  coloured : Bool
  deriving Inhabited

namespace Style

/-- What stands before a record. -/
def before (style : Style) (record : Record) : Text :=
  if style.coloured then opening record else []

/-- What stands after a record: the end of the colour, if there was one. -/
def after (style : Style) (record : Record) : Text :=
  if (style.before record).isEmpty then [] else reset

/-- A record up to the end of its message. -/
def head (style : Style) (source : Text) (record : Record) : Text :=
  style.before record ++ style.layout.fill source record

/-- A record from a source, as it is shown. -/
def line (style : Style) (source : Text) (record : Record) : Text :=
  style.head source record ++ style.after record

end Style

end PrismaEsdl.Log
