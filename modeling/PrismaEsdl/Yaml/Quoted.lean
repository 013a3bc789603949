import PrismaEsdl.Yaml.Cursor

/-!
Quoted scalars. In single quotes a quote is written twice; in double quotes a backslash starts an
escape. Between lines of either the blanks are dropped and the breaks folded.

In a text that is cut off, a scalar is not finished where its last line is too short to tell whether
it starts with a mark of a document.
-/

namespace PrismaEsdl.Yaml.Quoted

/-- The two kinds of quotes. -/
inductive Quote where
  | single
  | double
  deriving DecidableEq, Repr

def Quote.mark : Quote → CodePoint
  | single => .char '\''
  | double => .char '"'

/-- The line breaks at the beginning of lines that hold nothing but blanks, and the place where
the text goes on; a line that starts with a mark of a document is a fault. -/
def emptyLines (cutOff : Bool) : Nat → Cursor → Except Fault (Text × Cursor)
  | 0, _ => .error .malformed
  | fuel + 1, c =>
    if cutOff && isShortForMark c.rest then .error .unfinished
    else if startsWithDocumentMark c.rest then .error .malformed
    else
      let c := c.skipWhile isBlank
      match c.lineBreak? with
      | none => .ok ([], c)
      | some (b, c) => do
        let (breaks, c) ← emptyLines cutOff fuel c
        return (b :: breaks, c)

/-- The blanks or the line breaks at a place, as they are kept. -/
def blanks (cutOff : Bool) (fuel : Nat) (c : Cursor) : Except Fault (Text × Cursor) :=
  let (blanks, c) := c.takeWhile isBlank
  match c.lineBreak? with
  | none => .ok (blanks, c)
  | some (b, c) => do
    let (breaks, c) ← emptyLines cutOff fuel c
    return (fold b breaks, c)

/-- The escapes of one character. -/
def simpleEscapes : List (Char × Char) := [
  ('0', '\x00'), ('a', '\x07'), ('b', '\x08'), ('t', '\t'), ('\t', '\t'), ('n', '\n'),
  ('v', '\x0b'), ('f', '\x0c'), ('r', '\r'), ('e', '\x1b'), (' ', ' '), ('"', '"'),
  ('\\', '\\'), ('/', '/'), ('N', '\u0085'), ('_', '\u00a0'), ('L', '\u2028'), ('P', '\u2029')]

/-- The number of digits after a letter that starts a numeric escape. -/
def digitCount? : CodePoint → Option Nat
  | .char 'x' => some 2
  | .char 'u' => some 4
  | .char 'U' => some 8
  | _ => none

/-- The code point with a number; numbers of 32 bits with the highest bit set are not looked at. -/
def codePoint (n : Nat) : Except Fault CodePoint :=
  if n < 0x80000000 then
    match CodePoint.ofNat? n with
    | some p => .ok p
    | none => .error .invalidValue
  else .error .overflow

/-- What an escape stands for; the place is the one after the backslash. An escaped line break
stands for nothing, and the empty lines after it for themselves. -/
def escape (cutOff : Bool) (fuel : Nat) (c : Cursor) : Except Fault (Text × Cursor) :=
  match c.rest with
  | [] => .error .unfinished
  | p :: rest =>
    match simpleEscapes.find? (.char ·.1 = p), digitCount? p with
    | some (_, meaning), _ => .ok ([.char meaning], c.next)
    | none, some count =>
      match Text.toNat? 16 (rest.take count) with
      | some n =>
        if (rest.take count).length = count then do
          return ([← codePoint n], c.advance (count + 1))
        else .error .unfinished
      | none => .error (.before (rest.dropWhile fun p => p.hexDigit?.isSome))
    | none, none =>
      match c.lineBreak? with
      | some (_, c) => emptyLines cutOff fuel c
      | none => .error .malformed

/-- The content of a scalar up to its closing quote, and the place after the quote. -/
def content (cutOff : Bool) (quote : Quote) : Nat → Cursor → Except Fault (Text × Cursor)
  | 0, _ => .error .malformed
  | fuel + 1, c =>
    match c.rest with
    | [] => .error .unfinished
    | p :: rest =>
      if isBlank p || isBreak p then do
        let (kept, c) ← blanks cutOff fuel c
        let (others, c) ← content cutOff quote fuel c
        return (kept ++ others, c)
      else if quote = .double ∧ p = .char '\\' then do
        let (meaning, c) ← escape cutOff fuel c.next
        let (others, c) ← content cutOff quote fuel c
        return (meaning ++ others, c)
      else if p = quote.mark then
        if quote = .single ∧ startsWith (· == p) rest then do
          let (others, c) ← content cutOff quote fuel (c.advance 2)
          return (p :: others, c)
        else .ok ([], c.next)
      else do
        let (others, c) ← content cutOff quote fuel c.next
        return (p :: others, c)

/-- The scalar whose opening quote is at a place with fewer than `bound` code points after it. -/
def read (cutOff : Bool) (quote : Quote) (bound : Nat) (c : Cursor) :
    Except Fault (Text × Cursor) :=
  content cutOff quote bound c.next

end PrismaEsdl.Yaml.Quoted
