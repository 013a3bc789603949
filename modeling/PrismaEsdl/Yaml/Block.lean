import PrismaEsdl.Yaml.Cursor

/-!
Block scalars: the lines under a `|` or a `>`, as far as they are indented. After the indicator may
stand what becomes of the breaks at the end, and by how much the lines are indented; otherwise the
first line with text shows the indentation.
-/

namespace PrismaEsdl.Yaml.Block

/-- What becomes of the line breaks at the end. -/
inductive Chomping where
  /-- One is kept. -/
  | clip
  /-- None is kept. -/
  | strip
  /-- All are kept. -/
  | keep
  deriving DecidableEq, Repr

/-- What a block scalar says about itself. -/
structure Header where
  chomping : Chomping
  /-- By how much the lines are indented more than the collection around them. -/
  increment : Option Nat

def chomping? : Text → Option (Chomping × Text)
  | .char '+' :: rest => some (.keep, rest)
  | .char '-' :: rest => some (.strip, rest)
  | _ => none

/-- A digit from 1 to 9; no other may stand there. -/
def increment? : Text → Except Fault (Option Nat × Text)
  | [] => .ok (none, [])
  | p :: rest =>
    match p.digit? with
    | none => .ok (none, p :: rest)
    | some 0 => .error .malformed
    | some n => .ok (some n, rest)

/-- The header that a text starts with, in either order, and what follows it. -/
def header (t : Text) : Except Fault (Header × Text) := do
  match chomping? t with
  | some (chomping, rest) =>
    let (increment, rest) ← increment? rest
    return (⟨chomping, increment⟩, rest)
  | none =>
    let (increment, rest) ← increment? t
    match increment, chomping? rest with
    | some _, some (chomping, rest) => return (⟨chomping, increment⟩, rest)
    | _, _ => return (⟨.clip, increment⟩, rest)

/-- The breaks of empty lines, the place where text goes on, and the greatest column that blanks
reach on the way. -/
def leadingLines : Nat → Cursor → Text × Nat × Cursor
  | 0, c => ([], 0, c)
  | fuel + 1, c =>
    let c := c.skipSpaces
    match c.lineBreak? with
    | none => ([], c.column, c)
    | some (b, after) =>
      let (breaks, column, after) := leadingLines fuel after
      (b :: breaks, max c.column column, after)

/-- The breaks of empty lines, and the place where text goes on; blanks beyond the indentation
belong to the text. -/
def emptyLines (indent : Nat) : Nat → Cursor → Text × Cursor
  | 0, c => ([], c)
  | fuel + 1, c =>
    let c := c.skipSpacesTo indent
    match c.lineBreak? with
    | none => ([], c)
    | some (b, c) =>
      let (breaks, c) := emptyLines indent fuel c
      (b :: breaks, c)

/-- Whether a text starts with a character that is no blank. -/
def startsDense (t : Text) : Bool := !startsWith isBlank t

/-- What is kept of the break between two lines and of the empty lines between them. In a folded
scalar the break between two lines that start without a blank is folded. -/
def between (folded dense : Bool) (lineBreak : Text) (empty : Text) : Text :=
  if folded && lineBreak == [.char '\n'] && dense then
    if empty.isEmpty then [.char ' '] else empty
  else lineBreak ++ empty

/-- The lines of a scalar from a place on, with the breaks between them, the break of the last
line, the breaks of the empty lines after it, and the place after them. -/
def lines (folded : Bool) (indent : Nat) : Nat → Cursor → Text × Text × Text × Cursor
  | 0, c => ([], [], [], c)
  | fuel + 1, c =>
    let dense := startsDense c.rest
    let (line, c) := c.takeWhile (!isBreak ·)
    let (lineBreak, c) : Text × Cursor := match c.lineBreak? with
      | none => ([], c)
      | some (b, c) => ([b], c)
    let (empty, c) := emptyLines indent fuel c
    if c.column = indent ∧ !c.rest.isEmpty then
      let kept := between folded (dense && startsDense c.rest) lineBreak empty
      let (others, ending) := lines folded indent fuel c
      (line ++ kept ++ others, ending)
    else (line, lineBreak, empty, c)

/-- The block scalar whose indicator is at a place with fewer than `fuel` code points after it, and
the place after the scalar; `column` is the least column that its lines may have. -/
def read (folded : Bool) (column fuel : Nat) (c : Cursor) : Except Fault (Text × Cursor) := do
  let c := c.next
  let (header, rest) ← header c.rest
  if !(endsLine rest || startsWith (· == .char ' ') rest) then .error .malformed
  let c ← (c.goTo rest).endOfLine?
  let (leading, indent, c) : Text × Nat × Cursor := match header.increment with
    | some increment =>
      let indent := column + increment - 1
      let (breaks, c) := emptyLines indent fuel c
      (breaks, indent, c)
    | none =>
      let (breaks, reached, c) := leadingLines fuel c
      (breaks, max column reached, c)
  let (text, lineBreak, trailing, c) :=
    if c.column = indent ∧ !c.rest.isEmpty then
      let (text, lineBreak, trailing, c) := lines folded indent fuel c
      (leading ++ text, lineBreak, trailing, c)
    else ([], [], leading, c)
  match header.chomping with
  | .strip => return (text, c)
  | .clip => return (text ++ lineBreak, c)
  | .keep => return (text ++ lineBreak ++ trailing, c)

end PrismaEsdl.Yaml.Block
