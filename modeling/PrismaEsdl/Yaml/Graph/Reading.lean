import PrismaEsdl.Yaml.Graph
import PrismaEsdl.Yaml.Lexer

/-!
Reading the nodes of a document from its tokens.

An anchor gives its node a name, and an alias stands for the node with that name; inside of the
node that it names it makes a cycle. Tokens are looked at one by one, so of two faults the one in
front is found.
-/

namespace PrismaEsdl.Yaml

/-- The kind of a scalar. -/
def Tag.scalarKind (content : Text) (plain : Bool) : Tag → Kind
  | absent => if plain then Scalar.kind content else .text
  | byForm => Scalar.kind content
  | named kind => kind

namespace Graph

/-- Tokens that are being read as nodes, the nodes so far, and the names of some of them. -/
structure Source where
  tokens : List Token
  anchors : List (Text × Nat)
  graph : Graph

/-- What reads from the front of the tokens. -/
abbrev Reader := StateT Source (Except Fault)

/-- What is known at the place of a node. -/
structure Surroundings where
  handles : Handles
  /-- The number of collections that may stand around a place. -/
  limit : Nat
  /-- The collections around the place, the innermost first. -/
  around : List Nat

/-- The place inside of one more collection. -/
def Surroundings.inside (here : Surroundings) (number : Nat) : Except Fault Surroundings :=
  if here.around.length < here.limit then .ok { here with around := number :: here.around }
  else .error .tooDeep

namespace Reader

def tokens : Reader (List Token) := return (← get).tokens

/-- Goes on with some tokens. -/
def goOn (tokens : List Token) : Reader Unit := modify fun s => { s with tokens }

def newNode (node : Node) : Reader Nat :=
  modifyGet fun s =>
    let (number, graph) := s.graph.add node
    (number, { s with graph })

def find? (anchor : Text) : Reader (Option Nat) :=
  return ((← get).anchors.find? (·.1 = anchor)).map Prod.snd

/-- Gives a node a name, if there is one. -/
def name (anchor : Option Text) (number : Nat) : Reader Unit :=
  match anchor with
  | some anchor => modify fun s => { s with anchors := (anchor, number) :: s.anchors }
  | none => return ()

/-- The node that an alias stands for. -/
def aliased (here : Surroundings) (anchor : Text) : Reader Nat := do
  match ← find? anchor with
  | none => throw .malformed
  | some number =>
    if here.around.contains number then
      modify fun s => { s with graph := { s.graph with cyclic := true } }
    return number

/-- A scalar node. -/
def scalar (anchor : Option Text) (tag : Tag) (content : Text) (plain : Bool) : Reader Nat := do
  let number ← newNode ⟨tag.scalarKind content plain, .scalar content⟩
  name anchor number
  return number

/-- A collection. It has its name before what it contains is read. -/
def collection (here : Surroundings) (anchor : Option Text) (kind : Kind)
    (content : Surroundings → Reader Form) : Reader Nat := do
  let number ← newNode ⟨kind, .scalar []⟩
  name anchor number
  let form ← content (← here.inside number)
  modify fun s => { s with graph := s.graph.setForm number form }
  return number

end Reader

open Reader

/-- The fault of a token that does not fit. -/
def unexpected : List Token → Fault
  | .broken fault :: _ => fault
  | _ => .malformed

/-- The name and the tag before a node, in either order, and the tokens after them. -/
def properties (handles : Handles) : List Token → Except Fault (Option Text × Tag × List Token)
  | .anchor name :: .tag written :: rest => do
    return (some name, ← Tag.ofWritten handles written, rest)
  | .anchor name :: rest => .ok (some name, .absent, rest)
  | .tag written :: .anchor name :: rest => do
    return (some name, ← Tag.ofWritten handles written, rest)
  | .tag _ :: .broken fault :: _ => .error fault
  | .tag written :: rest => do return (none, ← Tag.ofWritten handles written, rest)
  | rest => .ok (none, .absent, rest)

/-- What may stand at the place of a node beside a scalar, an alias and brackets. -/
inductive Place where
  | flow
  | block
  /-- Items of a sequence may follow without an indentation of their own. -/
  | entry

/-- Whether a key or a value in brackets ends before the tokens. -/
def endsInFlow : List Token → Bool
  | .value :: _ | .separator :: _ | .flowSequenceEnd :: _ | .flowMappingEnd :: _ => true
  | _ => false

/-- Whether an item, a key or a value that is shown by indentation ends before the tokens. -/
def endsInBlock : List Token → Bool
  | .entry :: _ | .key :: _ | .value :: _ | .blockEnd :: _ => true
  | _ => false

/-- Whether a node may be left out before the tokens. -/
def Place.ends : Place → List Token → Bool
  | .flow, tokens => endsInFlow tokens
  | .block, tokens => endsInBlock tokens
  | .entry, .entry :: _ => false
  | .entry, tokens => endsInBlock tokens

mutual

/-- The node at the front of the tokens. -/
def read (here : Surroundings) (place : Place) : Nat → Reader Nat
  | 0 => throw .malformed
  | fuel + 1 => do
    match ← tokens with
    | .alias name :: rest =>
      goOn rest
      aliased here name
    | start =>
      let (anchor, tag, found) ← properties here.handles start
      if let .broken fault :: _ := found then throw fault
      if let some name := anchor then
        if (← find? name).isSome then throw .malformed
      let sequence (items : Surroundings → Reader (List Nat)) (rest : List Token) : Reader Nat := do
        goOn rest
        collection here anchor (tag.collectionKind .sequence) fun here => .sequence <$> items here
      let mapping (entries : Surroundings → Reader (List (Nat × Nat))) (rest : List Token) :
          Reader Nat := do
        goOn rest
        collection here anchor (tag.collectionKind .mapping) fun here => .mapping <$> entries here
      match place, found with
      | _, .scalar content plain :: rest =>
        goOn rest
        scalar anchor tag content plain
      | _, .flowSequence :: rest => sequence (fun here => flowItems here true fuel) rest
      | _, .flowMapping :: rest => mapping (fun here => flowEntries here true fuel) rest
      | .block, .blockSequence :: rest | .entry, .blockSequence :: rest =>
        sequence (fun here => blockItems here fuel) rest
      | .block, .blockMapping :: rest | .entry, .blockMapping :: rest =>
        mapping (fun here => blockEntries here fuel) rest
      | .entry, .entry :: rest => sequence (fun here => bareItems here fuel) (.entry :: rest)
      | _, rest =>
        if anchor.isNone && tag matches .absent then throw .malformed
        goOn rest
        scalar anchor tag [] true

/-- The node at the front of the tokens, or an empty one where it is left out. -/
def readOptional (here : Surroundings) (place : Place) : Nat → Reader Nat
  | 0 => throw .malformed
  | fuel + 1 => do if place.ends (← tokens) then newNode .empty else read here place fuel

/-- The value after a key: nothing is read where no colon follows. -/
def readValue (here : Surroundings) (place : Place) : Nat → Reader Nat
  | 0 => throw .malformed
  | fuel + 1 => do
    match ← tokens with
    | .value :: rest =>
      goOn rest
      readOptional here place fuel
    | _ => newNode .empty

/-- The entry after the mark of a key. -/
def readEntry (here : Surroundings) (place : Place) : Nat → Reader (Nat × Nat)
  | 0 => throw .malformed
  | fuel + 1 => do
    let key ← readOptional here place fuel
    return (key, ← readValue here place fuel)

/-- The items of a sequence in brackets. -/
def flowItems (here : Surroundings) (first : Bool) : Nat → Reader (List Nat)
  | 0 => throw .malformed
  | fuel + 1 => do
    match first, ← tokens with
    | _, .flowSequenceEnd :: rest | false, .separator :: .flowSequenceEnd :: rest =>
      goOn rest
      return []
    | true, rest | false, .separator :: rest =>
      goOn rest
      let item ← flowItem here fuel
      return item :: (← flowItems here false fuel)
    | false, rest => throw (unexpected rest)

/-- An item of a sequence in brackets; a key and its value are a mapping of one entry. -/
def flowItem (here : Surroundings) : Nat → Reader Nat
  | 0 => throw .malformed
  | fuel + 1 => do
    match ← tokens with
    | .key :: rest =>
      goOn rest
      collection here none .mapping fun here => return .mapping [← readEntry here .flow fuel]
    | _ => read here .flow fuel

/-- The entries of a mapping in brackets. -/
def flowEntries (here : Surroundings) (first : Bool) : Nat → Reader (List (Nat × Nat))
  | 0 => throw .malformed
  | fuel + 1 => do
    match first, ← tokens with
    | _, .flowMappingEnd :: rest | false, .separator :: .flowMappingEnd :: rest =>
      goOn rest
      return []
    | true, rest | false, .separator :: rest =>
      goOn rest
      let entry ← flowEntry here fuel
      return entry :: (← flowEntries here false fuel)
    | false, rest => throw (unexpected rest)

/-- An entry of a mapping in brackets; a node without a mark is a key without a value. -/
def flowEntry (here : Surroundings) : Nat → Reader (Nat × Nat)
  | 0 => throw .malformed
  | fuel + 1 => do
    match ← tokens with
    | .key :: rest =>
      goOn rest
      readEntry here .flow fuel
    | _ =>
      let key ← read here .flow fuel
      return (key, ← newNode .empty)

/-- The items of a sequence with an indentation of its own. -/
def blockItems (here : Surroundings) : Nat → Reader (List Nat)
  | 0 => throw .malformed
  | fuel + 1 => do
    match ← tokens with
    | .entry :: rest =>
      goOn rest
      let item ← readOptional here .block fuel
      return item :: (← blockItems here fuel)
    | .blockEnd :: rest =>
      goOn rest
      return []
    | rest => throw (unexpected rest)

/-- The items of a sequence in the column of the key before it. -/
def bareItems (here : Surroundings) : Nat → Reader (List Nat)
  | 0 => throw .malformed
  | fuel + 1 => do
    match ← tokens with
    | .entry :: rest =>
      goOn rest
      let item ← readOptional here .block fuel
      return item :: (← bareItems here fuel)
    | _ => return []

/-- The entries of a mapping that is shown by indentation. -/
def blockEntries (here : Surroundings) : Nat → Reader (List (Nat × Nat))
  | 0 => throw .malformed
  | fuel + 1 => do
    match ← tokens with
    | .key :: rest =>
      goOn rest
      let entry ← readEntry here .entry fuel
      return entry :: (← blockEntries here fuel)
    | .blockEnd :: rest =>
      goOn rest
      return []
    | rest => throw (unexpected rest)

end

/-! ### Documents -/

/-- The directives at the front of the tokens, as handles, and the tokens after them. -/
def directives (tokens : List Token) : Except Fault (Handles × List Token) := do
  let (found, rest) := split tokens
  return (← Handles.ofDirectives false [] found, rest)
where
  split : List Token → List Directive × List Token
    | .directive d :: rest =>
      let (others, rest) := split rest
      (d :: others, rest)
    | rest => ([], rest)

/-- Whether a document without content ends before the tokens. -/
def endsDocument : List Token → Bool
  | [] | .directive _ :: _ | .documentStart :: _ | .documentEnd :: _ => true
  | _ => false

/-- Checks that nothing follows a document but marks of its end. -/
def checkEnd (tokens : List Token) : Except Fault Unit :=
  match tokens.dropWhile (· == .documentEnd) with
  | [] => .ok ()
  | rest => do
    let (_, rest) ← directives rest
    throw (unexpected rest)

/-- The nodes of a document whose content is at the front of the tokens, and its root. Some number
of collections may stand around each of them. -/
def ofContent (limit : Nat) (handles : Handles) (tokens : List Token) :
    Except Fault (Graph × Nat) := do
  let root : Reader Nat :=
    if endsDocument tokens then newNode .empty
    else read ⟨handles, limit, []⟩ .block (6 * tokens.length + 6)
  let (root, s) ← root.run ⟨tokens, [], .empty⟩
  checkEnd s.tokens
  return (s.graph, root)

/-- The nodes of the only document of a text, and its root; there need not be a document. Without
a mark of its start a document has no directives and is not empty. -/
def ofTokens? (limit : Nat) : List Token → Except Fault (Option (Graph × Nat))
  | [] => .ok none
  | .documentStart :: rest => some <$> ofContent limit .default rest
  | .directive d :: rest => do
    match ← directives (.directive d :: rest) with
    | (handles, .documentStart :: rest) => some <$> ofContent limit handles rest
    | (_, rest) => throw (unexpected rest)
  | .documentEnd :: _ => .error .malformed
  | tokens => some <$> ofContent limit .default tokens

/-- The nodes of the only document of a text, and its root, if there is a document. -/
def ofStream? (limit : Nat) (stream : Stream) : Except Fault (Option (Graph × Nat)) :=
  ofTokens? limit (Token.ofStream stream)

end Graph

end PrismaEsdl.Yaml
