import PrismaEsdl.Files.Content
import PrismaEsdl.Yaml.Cursor

/-!
Texts as they come in: what can be read of a file before something in it stops the reading.

The text of a file is read in blocks, two at first and then one whenever all code points before are
used up. A block is looked through for code points that may not stand in a text before any of it is
used. So a fault in a text is found before one in a later block, and behind one in the same block.
-/

namespace PrismaEsdl.Yaml

/-- Whether a code point may stand in a text. -/
def isAllowed (p : CodePoint) : Bool :=
  let n := p.value
  p.isAmong "\t\n\r\u0085" || (0x20 ≤ n && n < 0x7f) || (0xa0 ≤ n && n < 0xd800)
    || (0xe000 ≤ n && n < 0xfffe) || 0x10000 ≤ n

/-- A text as it comes in. -/
structure Stream where
  /-- What can be read. -/
  text : Text
  /-- The fault of what comes behind it, if that is not the end. -/
  behind : Option Fault
  deriving DecidableEq

namespace Stream

open Files (Intake)

/-- A text that comes in as a whole. -/
def whole (t : Text) : Stream := ⟨t, none⟩

/-- A stream behind a text. -/
def prepend (t : Text) (stream : Stream) : Stream := { stream with text := t ++ stream.text }

/-- The number of code points in a block. -/
def blockSize : Nat := 4096

/-- What comes in after some blocks. -/
def further : Nat → Intake → Stream
  | 0, _ => whole []
  | blocks + 1, s =>
    match s.request blockSize with
    | none => ⟨[], some .undecodable⟩
    | some ([], _) => whole []
    | some (block, s) =>
      if block.all isAllowed then (further blocks s).prepend block else ⟨[], some .malformed⟩

/-- The first two blocks of a text. -/
def firstBlocks (s : Intake) : Option (Text × Intake) := do
  let (first, s) ← s.request blockSize
  let (second, s) ← s.request blockSize
  return (first ++ second, s)

/-- The content of a file as it comes in. No more blocks follow the first ones than there are bytes
in the file. -/
def ofBytes (content : List UInt8) : Stream :=
  match firstBlocks { left := content } with
  | none => ⟨[], some .undecodable⟩
  | some (block, s) =>
    if block.all isAllowed then (further content.length s).prepend block
    else ⟨[], some .malformed⟩

end Stream

end PrismaEsdl.Yaml
