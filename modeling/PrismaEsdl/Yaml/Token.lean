import PrismaEsdl.Text.Number
import PrismaEsdl.Text.Utf8
import PrismaEsdl.Yaml.Cursor

/-!
Tokens, and the ones that are words with a mark before them: anchors, aliases, tags and directives.
-/

namespace PrismaEsdl.Yaml

/-- The kind that is written at a node. A handle stands for the beginning of the name. -/
structure WrittenTag where
  handle : Option Text
  suffix : Text
  deriving DecidableEq, Repr

/-- A line that says how the document after it is to be read. -/
inductive Directive where
  | version (major : Nat)
  | tagHandle (handle beginning : Text)
  /-- Any other directive is allowed and ignored. -/
  | reserved
  deriving DecidableEq, Repr

inductive Token where
  | directive (d : Directive)
  | documentStart
  | documentEnd
  /-- The beginning of a sequence or mapping that is shown by indentation. -/
  | blockSequence
  | blockMapping
  | blockEnd
  | flowSequence
  | flowSequenceEnd
  | flowMapping
  | flowMappingEnd
  /-- The dash before an item. -/
  | entry
  /-- The comma between items. -/
  | separator
  | key
  | value
  | alias (name : Text)
  | anchor (name : Text)
  | tag (t : WrittenTag)
  | scalar (content : Text) (plain : Bool)
  /-- A place from which no token can be read. -/
  | broken (fault : Fault)
  deriving DecidableEq, Repr

namespace Token

/-- The word of an anchor or alias, whose mark is at a place. -/
def name (c : Cursor) : Except Fault (Text × Cursor) :=
  let (name, c) := c.next.takeWhile CodePoint.isWord
  if name.isEmpty then .error (.before c.rest)
  else if endsWord c.rest || startsWith (·.isAmong "?:,]\x7d%@`") c.rest then .ok (name, c)
  else .error .malformed

/-! ### Tags -/

def isUriCharacter (p : CodePoint) : Bool := p.isWord || p.isAmong ";/?:@&=+$,.!~*'()[]%"

/-- The bytes of a run of escapes, each a percent sign and two hexadecimal digits. -/
def escapedBytes : Nat → Text → Except Fault (List UInt8 × Text)
  | fuel + 1, .char '%' :: high :: low :: rest =>
    match high.hexDigit?, low.hexDigit? with
    | some h, some l => do
      let (bytes, rest) ← escapedBytes fuel rest
      return (UInt8.ofNat (h * 16 + l) :: bytes, rest)
    | _, _ => .error .malformed
  | _, .char '%' :: rest => .error (.before (rest.dropWhile fun p => p.hexDigit?.isSome))
  | _, rest => .ok ([], rest)

/-- The characters of a name at the front of a text, escapes resolved, and what follows. -/
def uriCharacters : Nat → Text → Except Fault (Text × Text)
  | fuel + 1, .char '%' :: rest => do
    let (bytes, rest) ← escapedBytes fuel (.char '%' :: rest)
    match Text.Utf8.decode? bytes with
    | none => .error (.before rest)
    | some t =>
      let (others, rest) ← uriCharacters fuel rest
      return (t ++ others, rest)
  | fuel + 1, p :: rest =>
    if isUriCharacter p then do
      let (others, rest) ← uriCharacters fuel rest
      return (p :: others, rest)
    else .ok ([], p :: rest)
  | _, rest => .ok ([], rest)

/-- A name that is not empty, and what follows. -/
def uri (t : Text) : Except Fault (Text × Text) :=
  if startsWith isUriCharacter t then uriCharacters t.length t else .error (.before t)

/-- A handle, and what follows: one exclamation mark before a space, else two around a word that
may be empty. -/
def handle? : Text → Option (Text × Text)
  | .char '!' :: .char ' ' :: rest => some ([.char '!'], .char ' ' :: rest)
  | .char '!' :: rest =>
    match rest.span CodePoint.isWord with
    | (word, .char '!' :: rest) => some (.char '!' :: word ++ [.char '!'], rest)
    | _ => none
  | _ => none

/-- The place in a text where its beginning turns out to be no handle. -/
def behindHandle : Text → Text
  | .char '!' :: rest => rest.dropWhile CodePoint.isWord
  | t => t

/-- Whether a text is at its end, at a space or at a line break. -/
def endsField (t : Text) : Bool := endsLine t || startsWith (· == .char ' ') t

/-- The tag that a text starts with, and what follows. -/
def writtenTag : Text → Except Fault (WrittenTag × Text)
  | .char '!' :: .char '<' :: rest => do
    let (suffix, rest) ← uri rest
    match rest with
    | .char '>' :: rest => return (⟨none, suffix⟩, rest)
    | rest => .error (.before rest)
  | .char '!' :: rest =>
    if endsWord rest then .ok (⟨none, [.char '!']⟩, rest)
    else
      let (word, behind) := rest.span fun p => !(p == .char ' ' || isBreak p)
      if word.contains (.char '!') then
        match handle? (.char '!' :: rest) with
        | none => .error .malformed
        | some (handle, rest) => do
          let (suffix, rest) ← uri rest
          return (⟨some handle, suffix⟩, rest)
      else match uri rest with
        | .ok (suffix, rest) =>
          if endsField rest then .ok (⟨some [.char '!'], suffix⟩, rest)
          else .error (.before behind)
        | .error _ => .error (.before behind)
  | _ => .error .malformed

/-- The tag at a place. -/
def readTag (c : Cursor) : Except Fault (WrittenTag × Cursor) := do
  let (written, rest) ← writtenTag c.rest
  if endsField rest then return (written, c.goTo rest) else .error .malformed

/-! ### Directives -/

/-- A number, and what follows. -/
def number (t : Text) : Except Fault (Nat × Text) :=
  let (digits, rest) := t.span CodePoint.isDigit
  if digits.isEmpty then .error (.before rest)
  else
    match Text.integer? 10 digits with
    | some n => .ok (n.natAbs, rest)
    | none => .error .invalidValue

def skipSpaces (t : Text) : Text := t.dropWhile (· == .char ' ')

/-- The directive with a name, and what follows its parameters. -/
def namedDirective (name rest : Text) : Except Fault (Directive × Text) :=
  if name = "YAML" then do
    let (major, rest) ← number (skipSpaces rest)
    match rest with
    | .char '.' :: rest =>
      let (_, rest) ← number rest
      if endsField rest then return (.version major, rest) else .error .malformed
    | rest => .error (.before rest)
  else if name = "TAG" then
    match handle? (skipSpaces rest) with
    | some (handle, .char ' ' :: rest) => do
      let (beginning, rest) ← uri (skipSpaces rest)
      if endsField rest then return (.tagHandle handle beginning, rest) else .error .malformed
    | some (_, rest) => .error (.before rest)
    | none => .error (.before (behindHandle (skipSpaces rest)))
  else .ok (.reserved, rest.dropWhile (!isBreak ·))

/-- The directive whose percent sign is at a place, and the place after its line. -/
def readDirective (c : Cursor) : Except Fault (Directive × Cursor) := do
  let (name, rest) := c.next.rest.span CodePoint.isWord
  if name.isEmpty || !endsField rest then .error (.before rest)
  else
    let (found, rest) ← namedDirective name rest
    return (found, ← (c.goTo rest).endOfLine?)

end Token

end PrismaEsdl.Yaml
