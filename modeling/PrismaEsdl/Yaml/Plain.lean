import PrismaEsdl.Yaml.Cursor

/-!
Plain scalars: scalars without quotes. One goes on over several lines as long as they are indented
enough; it ends before a comment, before a colon that ends a word and, inside brackets, before a
character that separates items.

To tell where a scalar ends, some code points behind it are looked at. If these are missing in a
text that is cut off, the scalar is taken to go on to the end of the text.
-/

namespace PrismaEsdl.Yaml.Plain

/-- Whether a code point has a meaning of its own at the beginning of a token. -/
def isIndicator (p : CodePoint) : Bool := p.isAmong "-?:,[]\x7b\x7d#&*!|>'\"%@`"

/-- Whether a plain scalar starts with a text. -/
def starts (inFlow : Bool) : Text → Bool
  | [] => false
  | p :: rest =>
    if isBlank p || isBreak p then false
    else if isIndicator p then
      !endsWord rest && (p == .char '-' || (!inFlow && p.isAmong "?:"))
    else true

section

variable (cutOff : Bool)

/-- Whether a colon before a text ends the scalar. -/
def endsKey (inFlow : Bool) (t : Text) : Bool :=
  !(cutOff && t.isEmpty) &&
    (endsWord t || (inFlow && startsWith (·.isAmong ",[]\x7b\x7d") t))

/-- The number of code points that a scalar takes from a text without a blank. -/
def wordLength (inFlow : Bool) : Text → Nat
  | [] => 0
  | p :: rest =>
    if isBlank p || isBreak p then 0
    else if p = .char ':' ∧ endsKey cutOff inFlow rest then 0
    else if inFlow ∧ p.isAmong ",?[]\x7b\x7d" then 0
    else wordLength inFlow rest + 1

/-- The line breaks of empty lines, and the place where text goes on. There are none where a mark
of a document stands at the beginning of a line. -/
def emptyLines : Nat → Cursor → Option Text × Cursor
  | 0, c => (none, c)
  | fuel + 1, c =>
    if cutOff && isShortForMark c.rest then (none, c.advance c.rest.length)
    else if startsWithDocumentMark c.rest then (none, c)
    else
      let c := c.skipSpaces
      match c.lineBreak? with
      | none => (some [], c)
      | some (b, c) =>
        let (breaks, c) := emptyLines fuel c
        (breaks.map (b :: ·), c)

end

/-- What lies between two words. -/
structure Gap where
  /-- The blanks or breaks as they are kept; none where the scalar cannot go on. -/
  kept : Text
  /-- Whether a line ends in it. -/
  endsLine : Bool
  /-- The place after it. -/
  cursor : Cursor

/-- The blanks or line breaks after a word. -/
def gap (cutOff : Bool) (fuel : Nat) (c : Cursor) : Gap :=
  let (blanks, c) := c.takeWhile (· == .char ' ')
  match c.lineBreak? with
  | none => ⟨blanks, false, c⟩
  | some (b, c) =>
    match emptyLines cutOff fuel c with
    | (none, c) => ⟨[], true, c⟩
    | (some breaks, c) => ⟨fold b breaks, true, c⟩

/-- A plain scalar that was read. -/
structure Scalar where
  text : Text
  /-- Whether the line of its last word was ended. -/
  endsLine : Bool
  /-- The place after it. -/
  cursor : Cursor

section

variable (cutOff : Bool)

/-- The words of a scalar, with what is kept between them. The first column of a further line is
at least `column`. -/
def words (inFlow : Bool) (column : Nat) : Nat → Cursor → Scalar
  | 0, c => ⟨[], false, c⟩
  | fuel + 1, c =>
    let length := wordLength cutOff inFlow c.rest
    let word := c.rest.take length
    let gap := gap cutOff fuel (c.advance length)
    let goesOn := !gap.kept.isEmpty && !startsWith (· == .char '#') gap.cursor.rest
      && (inFlow || column ≤ gap.cursor.column)
      && wordLength cutOff inFlow gap.cursor.rest != 0
    if goesOn then
      let others := words inFlow column fuel gap.cursor
      { others with text := word ++ gap.kept ++ others.text }
    else ⟨word, gap.endsLine, gap.cursor⟩

/-- The plain scalar at a place with fewer than `bound` code points after it. -/
def read (inFlow : Bool) (column bound : Nat) (c : Cursor) : Scalar :=
  words cutOff inFlow column bound c

end

end PrismaEsdl.Yaml.Plain
