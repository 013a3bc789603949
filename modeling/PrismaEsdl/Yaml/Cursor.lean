import PrismaEsdl.Text.CodePoint

/-!
Cursors: places in a text, with line and column, and the classes of code points that tokens are
cut by.

A line break is a line feed, a carriage return, both together, a next-line character or one of the
two Unicode separators. A byte order mark takes no column.
-/

namespace PrismaEsdl.Yaml

/-- Why a text has no meaning. -/
inductive Fault where
  /-- The text does not follow the grammar, or a node is of a form that its kind does not have. -/
  | malformed
  /-- A value does not exist: a number is not written like one, or a date is impossible. -/
  | invalidValue
  /-- A number is too large to be looked at. -/
  | overflow
  /-- A word stands for no truth value. -/
  | unknownWord
  /-- There is nothing at all where a number should be. -/
  | noDigits
  /-- A moment is not written like one. -/
  | noMoment
  /-- A mapping stands for a moment. -/
  | notAText
  /-- Nodes contain each other too deeply, or stand for each other without an end. -/
  | tooDeep
  /-- The text ends within a token. -/
  | unfinished
  /-- The text goes on with bytes that write no characters. -/
  | undecodable
  deriving DecidableEq, Repr

/-- What is said about a fault in the use of a value, which is no fault of the text. -/
def Fault.message? : Fault → Option Text
  | noMoment => some "'NoneType' object has no attribute 'groupdict'"
  | notAText => some "expected string or bytes-like object, got 'list'"
  | malformed | invalidValue | overflow | unknownWord | noDigits | tooDeep | unfinished
  | undecodable => none

/-- The fault of a place where something else has to stand: the text need not end there. -/
def Fault.before : Text → Fault
  | [] => unfinished
  | _ => malformed

/-- Whether a code point ends a line. -/
def isBreak (p : CodePoint) : Bool := p.isAmong "\n\r\u0085\u2028\u2029"

/-- Whether a code point is a blank within a line. -/
def isBlank (p : CodePoint) : Bool := p.isAmong " \t"

/-- Whether a line ends before a text. -/
def endsLine : Text → Bool
  | [] => true
  | p :: _ => isBreak p

/-- Whether a word ends before a text. -/
def endsWord : Text → Bool
  | [] => true
  | p :: _ => isBlank p || isBreak p

/-- Whether a text starts with a code point of some kind. -/
def startsWith (kind : CodePoint → Bool) : Text → Bool
  | [] => false
  | p :: _ => kind p

/-- Whether a text starts with a mark of three characters that stands alone. -/
def startsWithMark (mark : String) (t : Text) : Bool :=
  (Text.ofString mark).isPrefixOf t && endsWord (t.drop 3)

/-- Whether a text starts with a mark that a document starts or ends with. -/
def startsWithDocumentMark (t : Text) : Bool := startsWithMark "---" t || startsWithMark "..." t

/-- Whether a text is too short to tell whether such a mark is at its front, if it goes on. -/
def isShortForMark (t : Text) : Bool := t.length < 3 || t == "---" || t == "..."

/-- A place in a text. -/
structure Cursor where
  /-- What follows. -/
  rest : Text
  /-- The number of code points before. -/
  index : Nat
  line : Nat
  column : Nat
  deriving Inhabited

namespace Cursor

/-- The beginning of a text. -/
def start (t : Text) : Cursor := ⟨t, 0, 0, 0⟩

/-- The mark that may stand at the beginning of a text. -/
def byteOrderMark : CodePoint := .char '\ufeff'

/-- The place after the next code point. -/
def next (c : Cursor) : Cursor :=
  match c.rest with
  | [] => c
  | .char '\r' :: .char '\n' :: rest => ⟨.char '\n' :: rest, c.index + 1, c.line, c.column + 1⟩
  | p :: rest =>
    if isBreak p then ⟨rest, c.index + 1, c.line + 1, 0⟩
    else if p = byteOrderMark then ⟨rest, c.index + 1, c.line, c.column⟩
    else ⟨rest, c.index + 1, c.line, c.column + 1⟩

/-- The place after a number of code points. -/
def advance : Nat → Cursor → Cursor
  | 0, c => c
  | n + 1, c => advance n c.next

/-- The place that a part of what follows stands at. -/
def goTo (c : Cursor) (rest : Text) : Cursor := c.advance (c.rest.length - rest.length)

/-- The code points of some kind at a place, and the place after them. -/
def takeWhile (c : Cursor) (kind : CodePoint → Bool) : Text × Cursor :=
  let taken := c.rest.takeWhile kind
  (taken, c.advance taken.length)

def skipWhile (c : Cursor) (kind : CodePoint → Bool) : Cursor := (c.takeWhile kind).2

def skipSpaces (c : Cursor) : Cursor := c.skipWhile (· == .char ' ')

/-- The place after the spaces that are there, as long as the column is below a bound. -/
def skipSpacesTo (column : Nat) (c : Cursor) : Cursor :=
  c.advance ((c.rest.take (column - c.column)).takeWhile (· == .char ' ')).length

/-- The end of a comment if one starts here. -/
def skipComment (c : Cursor) : Cursor :=
  if startsWith (· == .char '#') c.rest then c.skipWhile (!isBreak ·) else c

/-- The line break at a place and the place after it. All breaks but the two separators are read
as line feeds. -/
def lineBreak? (c : Cursor) : Option (CodePoint × Cursor) :=
  match c.rest with
  | .char '\r' :: .char '\n' :: _ => some (.char '\n', c.advance 2)
  | p :: _ =>
    if p.isAmong "\u2028\u2029" then some (p, c.next)
    else if isBreak p then some (.char '\n', c.next)
    else none
  | [] => none

/-- The place after the line break that is there, if one is. -/
def skipBreak (c : Cursor) : Cursor :=
  match c.lineBreak? with
  | some (_, c) => c
  | none => c

/-- The end of a line that may have nothing but blanks and a comment left. -/
def endOfLine? (c : Cursor) : Except Fault Cursor :=
  let c := c.skipSpaces.skipComment
  if endsLine c.rest then .ok c.skipBreak else .error .malformed

end Cursor

/-- Line breaks as they are kept within a scalar: a single line feed becomes a blank; of more
breaks the first one is dropped if it is a line feed. -/
def fold (first : CodePoint) (others : Text) : Text :=
  if first ≠ .char '\n' then first :: others
  else if others.isEmpty then [.char ' ']
  else others

end PrismaEsdl.Yaml
