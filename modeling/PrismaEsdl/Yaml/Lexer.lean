import PrismaEsdl.Yaml.Block
import PrismaEsdl.Yaml.Plain
import PrismaEsdl.Yaml.Quoted
import PrismaEsdl.Yaml.Stream
import PrismaEsdl.Yaml.Token

/-!
Tokens of a text.

Outside brackets, collections begin and end by indentation: a collection begins with an item to the
right of the one around it, and ends with the first token to the left of its items. A mapping key
needs no mark. Whatever may be a key is remembered until a colon is found on the same line, at most
1024 code points later; then the key, and the mapping that it begins, are put in before it.

A token is read with the code point behind it, or with as many as it takes to tell that the token
ends. If the text comes in up to some place only, the tokens that are read without looking behind
that place are given, and what is behind it is the fault after them.
-/

namespace PrismaEsdl.Yaml

/-- A row of tokens that grows at its end. -/
structure TokenRow where
  /-- The tokens, the last one first. -/
  reversed : List Token
  size : Nat
  size_eq : size = reversed.length

namespace TokenRow

def empty : TokenRow := ⟨[], 0, rfl⟩

def toList (row : TokenRow) : List Token := row.reversed.reverse

def push (row : TokenRow) (token : Token) : TokenRow :=
  ⟨token :: row.reversed, row.size + 1, by simp [row.size_eq]⟩

/-- Puts a token before the tokens from a position on. -/
def insert (row : TokenRow) (position : Nat) (token : Token) : TokenRow where
  reversed := row.reversed.take (row.size - position)
    ++ token :: row.reversed.drop (row.size - position)
  size := row.size + 1
  size_eq := by
    have size_eq := row.size_eq
    simp only [List.length_append, List.length_take, List.length_cons, List.length_drop]
    omega

end TokenRow

/-- A token that may turn out to be a key. -/
structure KeyCandidate where
  /-- The number of tokens before it. -/
  position : Nat
  /-- Whether nothing but a key may stand there. -/
  required : Bool
  place : Cursor

namespace KeyCandidate

/-- Gives a candidate up; one that had to be a key cannot be given up. -/
def drop : Option KeyCandidate → Except Fault (Option KeyCandidate)
  | some candidate => if candidate.required then .error .malformed else .ok none
  | none => .ok none

/-- Whether a candidate can no longer be a key at a place. -/
def isStale (candidate : KeyCandidate) (c : Cursor) : Bool :=
  candidate.place.line != c.line || 1024 < c.index - candidate.place.index

/-- Gives a candidate up if it is stale. -/
def expire (c : Cursor) : Option KeyCandidate → Except Fault (Option KeyCandidate)
  | some candidate =>
    if candidate.isStale c then drop (some candidate) else .ok (some candidate)
  | none => .ok none

end KeyCandidate

/-- A text that is being read as tokens. -/
structure Lexer where
  cursor : Cursor
  /-- A number that is greater than that of the code points of the text; it bounds the steps in
  which a token is read. -/
  bound : Nat
  /-- The fault of what comes behind the text, if that is not its end. -/
  behind : Option Fault
  /-- The tokens so far. -/
  tokens : TokenRow
  /-- The columns of the collections that are shown by indentation, the innermost first. -/
  blocks : List Nat
  /-- What may be a key within the innermost brackets. -/
  candidate : Option KeyCandidate
  /-- What may be a key within each of the brackets around them, or outside of any. -/
  outer : List (Option KeyCandidate)
  /-- Whether a key may begin here. -/
  keyAllowed : Bool

namespace Lexer

abbrev Step := Except Fault Lexer

def start (stream : Stream) : Lexer where
  cursor := .start stream.text
  bound := stream.text.length + 1
  behind := stream.behind
  tokens := .empty
  blocks := []
  candidate := none
  outer := []
  keyAllowed := true

/-- Whether the text is cut off somewhere. -/
def cutOff (s : Lexer) : Bool := s.behind.isSome

/-- Whether the text is cut off at the place. -/
def isCutOff (s : Lexer) : Bool := s.cursor.rest.isEmpty && s.cutOff

/-- Whether the text is cut off before it can be told whether a mark of a document is at the
place. -/
def isCutInMark (s : Lexer) : Bool :=
  s.cutOff && s.cursor.column == 0 && startsWith (·.isAmong "-.") s.cursor.rest
    && isShortForMark s.cursor.rest

/-- A fault as it is found in the whole text. -/
def faultOf (s : Lexer) : Fault → Fault
  | .unfinished => s.behind.getD .malformed
  | fault => fault

/-- Whether the place is inside brackets. -/
def inFlow (s : Lexer) : Bool := !s.outer.isEmpty

def push (s : Lexer) (token : Token) : Lexer := { s with tokens := s.tokens.push token }

def allowKey (s : Lexer) (allowed : Bool) : Lexer := { s with keyAllowed := allowed }

/-- Puts a token before the tokens from a position on. -/
def insert (s : Lexer) (position : Nat) (token : Token) : Lexer :=
  { s with tokens := s.tokens.insert position token }

/-! ### Keys -/

def dropCandidate (s : Lexer) : Step := do
  return { s with candidate := ← KeyCandidate.drop s.candidate }

/-- Gives up the candidates that can no longer be keys. -/
def expireCandidates (s : Lexer) : Step := do
  let candidate ← KeyCandidate.expire s.cursor s.candidate
  let outer ← s.outer.mapM (KeyCandidate.expire s.cursor)
  return { s with candidate, outer }

/-- Remembers that the next token may be a key. Where the items of a block stand, it has to be. -/
def saveCandidate (s : Lexer) : Step :=
  if s.keyAllowed then do
    let s ← s.dropCandidate
    let required := !s.inFlow && s.blocks.head? == some s.cursor.column
    return { s with candidate := some ⟨s.tokens.size, required, s.cursor⟩ }
  else .ok s

/-! ### Indentation -/

/-- Ends the blocks to the right of a column. -/
def endBlocks (column : Nat) : List Nat → TokenRow → List Nat × TokenRow
  | [], tokens => ([], tokens)
  | block :: blocks, tokens =>
    if column < block then endBlocks column blocks (tokens.push .blockEnd)
    else (block :: blocks, tokens)

/-- Ends the blocks to the right of the place; brackets keep them open. -/
def unwind (s : Lexer) : Lexer :=
  if s.inFlow then s
  else
    let (blocks, tokens) := endBlocks s.cursor.column s.blocks s.tokens
    { s with blocks, tokens }

/-- Ends all blocks. -/
def unwindAll (s : Lexer) : Lexer :=
  if s.inFlow then s
  else { s with blocks := [], tokens := s.blocks.foldl (fun row _ => row.push .blockEnd) s.tokens }

/-- Begins a block at a column to the right of the innermost one; its token is put in at a
position. -/
def beginBlock (s : Lexer) (column position : Nat) (token : Token) : Lexer :=
  if s.blocks.all (· < column) then
    { s.insert position token with blocks := column :: s.blocks }
  else s

/-- Begins a block at the place; this needs a place where a key may begin. -/
def beginBlockHere (s : Lexer) (token : Token) : Step :=
  if s.inFlow then .ok s
  else if s.keyAllowed then .ok (s.beginBlock s.cursor.column s.tokens.size token)
  else .error .malformed

/-- The least column of text inside the innermost block. -/
def innerColumn (s : Lexer) : Nat :=
  match s.blocks with
  | [] => 0
  | block :: _ => block + 1

/-! ### Tokens -/

/-- Skips blanks, comments and line breaks, and tells whether a line ended. Tabs are not
skipped. -/
def skipLines : Nat → Cursor → Cursor × Bool
  | 0, c => (c, false)
  | fuel + 1, c =>
    let c := c.skipSpaces.skipComment
    match c.lineBreak? with
    | none => (c, false)
    | some (_, c) => ((skipLines fuel c).1, true)

/-- Goes on to the next token. Outside brackets a key may begin on a new line. -/
def toToken (s : Lexer) : Lexer :=
  let c := s.cursor
  let c := if c.index = 0 ∧ startsWith (· == Cursor.byteOrderMark) c.rest then c.next else c
  let (c, newLine) := skipLines s.bound c
  { s with cursor := c, keyAllowed := s.keyAllowed || (newLine && !s.inFlow) }

/-- Takes a mark of some code points as a token. -/
def mark (s : Lexer) (length : Nat) (token : Token) : Lexer :=
  { s.push token with cursor := s.cursor.advance length }

/-- Takes a mark that stands between documents. -/
def documentMark (s : Lexer) (token : Token) : Step := do
  return ((← s.unwindAll.dropCandidate).mark 3 token).allowKey false

def directive (s : Lexer) : Step := do
  let s ← s.unwindAll.dropCandidate
  let (directive, cursor) ← Token.readDirective s.cursor
  return { s.push (.directive directive) with cursor, keyAllowed := false }

/-- Takes an opening bracket. -/
def openBracket (s : Lexer) (token : Token) : Step := do
  let s ← s.saveCandidate
  return { s.mark 1 token with
    candidate := none, outer := s.candidate :: s.outer, keyAllowed := true }

/-- Takes a closing bracket. -/
def closeBracket (s : Lexer) (token : Token) : Step := do
  let s ← s.dropCandidate
  match s.outer with
  | [] => .error .malformed
  | candidate :: outer =>
    return { s.mark 1 token with candidate, outer, keyAllowed := false }

def separator (s : Lexer) : Step := do
  return ((← s.dropCandidate).mark 1 .separator).allowKey true

def entry (s : Lexer) : Step := do
  let s ← s.beginBlockHere .blockSequence
  return ((← s.dropCandidate).mark 1 .entry).allowKey true

def key (s : Lexer) : Step := do
  let s ← s.beginBlockHere .blockMapping
  return ((← s.dropCandidate).mark 1 .key).allowKey (!s.inFlow)

def value (s : Lexer) : Step :=
  match s.candidate with
  | some candidate =>
    let s := s.insert candidate.position .key
    let s := if s.inFlow then s
      else s.beginBlock candidate.place.column candidate.position .blockMapping
    .ok { s.mark 1 .value with candidate := none, keyAllowed := false }
  | none => do
    let s ← s.beginBlockHere .blockMapping
    return (s.mark 1 .value).allowKey (!s.inFlow)

/-- Takes a token that may be a key or stand at its front. -/
def content (s : Lexer) (read : Cursor → Except Fault (Token × Cursor)) : Step := do
  let s ← s.saveCandidate
  let (token, cursor) ← read s.cursor
  return { s.push token with cursor, keyAllowed := false }

def quoted (s : Lexer) (quote : Quoted.Quote) : Step :=
  s.content fun c => do
    let (t, c) ← Quoted.read s.cutOff quote s.bound c
    return (.scalar t false, c)

def blockScalar (s : Lexer) (folded : Bool) : Step := do
  let s ← s.dropCandidate
  let (t, cursor) ← Block.read folded (max s.innerColumn 1) s.bound s.cursor
  return { s.push (.scalar t false) with cursor, keyAllowed := true }

def plain (s : Lexer) : Step := do
  let s ← s.saveCandidate
  let scalar := Plain.read s.cutOff s.inFlow s.innerColumn s.bound s.cursor
  return { s.push (.scalar scalar.text true) with
    cursor := scalar.cursor, keyAllowed := scalar.endsLine }

/-- Whether a mark of one character stands for itself before a text. -/
def standsAlone (s : Lexer) (rest : Text) : Bool := s.inFlow || endsWord rest

/-- Takes the token that a text starts with at the place. -/
def token (s : Lexer) (p : CodePoint) (rest : Text) : Step :=
  let plain : Step := if Plain.starts s.inFlow (p :: rest) then s.plain else .error .malformed
  match p with
  | .surrogate _ => plain
  | .char c =>
    if s.cursor.column = 0 ∧ c = '%' then s.directive
    else if s.cursor.column = 0 ∧ startsWithMark "---" (p :: rest) then
      s.documentMark .documentStart
    else if s.cursor.column = 0 ∧ startsWithMark "..." (p :: rest) then
      s.documentMark .documentEnd
    else match c with
      | '[' => s.openBracket .flowSequence
      | '\x7b' => s.openBracket .flowMapping
      | ']' => s.closeBracket .flowSequenceEnd
      | '\x7d' => s.closeBracket .flowMappingEnd
      | ',' => s.separator
      | '-' => if endsWord rest then s.entry else plain
      | '?' => if s.standsAlone rest then s.key else plain
      | ':' => if s.standsAlone rest then s.value else plain
      | '*' => s.content fun c => do
        let (name, c) ← Token.name c
        return (.alias name, c)
      | '&' => s.content fun c => do
        let (name, c) ← Token.name c
        return (.anchor name, c)
      | '!' => s.content fun c => do
        let (tag, c) ← Token.readTag c
        return (.tag tag, c)
      | '|' => if s.inFlow then plain else s.blockScalar false
      | '>' => if s.inFlow then plain else s.blockScalar true
      | '\'' => s.quoted .single
      | '"' => s.quoted .double
      | _ => plain

/-- The place in the row of tokens from which on nothing is known until the next token is read: a
key, and the beginning of a mapping, may still be put in before a candidate. -/
def settled (s : Lexer) : Nat :=
  (s.candidate.toList ++ s.outer.flatMap Option.toList).foldl (fun least candidate =>
    if candidate.isStale s.cursor then least else min least candidate.position) s.tokens.size

/-- The last code point before the place where a text is cut off. No token is read there; but a
candidate is given up before what comes behind a mark is looked at. -/
def lastPoint (s : Lexer) (p : CodePoint) : Step :=
  if p.isAmong ",]\x7d|>" then do
    let _ ← s.dropCandidate
    throw .unfinished
  else .error .unfinished

/-- The state after the next token, or the last state at the end of the text. -/
def next (s : Lexer) : Except Fault (Lexer ⊕ Lexer) := do
  let s := (← s.expireCandidates).toToken
  if s.isCutOff then throw .unfinished
  let s := (← s.expireCandidates).unwind
  if s.isCutInMark then throw .unfinished
  match s.cursor.rest with
  | [] => return .inr (← s.unwindAll.dropCandidate)
  | p :: rest =>
    let step := if s.cutOff && rest.isEmpty then s.lastPoint p else s.token p rest
    let s ← step
    if s.isCutOff then throw .unfinished
    return .inl s

/-- The tokens from a state on, in order. Where a token cannot be read, its fault stands behind
the tokens that are settled. -/
def run : Nat → Lexer → List Token
  | 0, s => s.tokens.toList
  | fuel + 1, s =>
    match s.next with
    | .error fault => s.tokens.toList.take s.settled ++ [.broken (s.faultOf fault)]
    | .ok (.inl s) => run fuel s
    | .ok (.inr s) => s.tokens.toList

end Lexer

/-- The tokens of a text that comes in. -/
def Token.ofStream (stream : Stream) : List Token :=
  let s := Lexer.start stream
  Lexer.run s.bound s

end PrismaEsdl.Yaml
