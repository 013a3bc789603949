import PrismaEsdl.Yaml.Graph.Merging

/-!
The values that nodes stand for.

The value of a scalar is made at once. A collection is made empty and filled later, in the order
in which collections are made, so a collection may contain itself; and the faults of what it
contains are found after those of everything that stands beside it. A node has one value, wherever
it stands.
-/

namespace PrismaEsdl.Yaml

/-- The value of a scalar. -/
structure Atom where
  value : Document
  /-- The node it was made from. The word for no number makes the same value everywhere. -/
  origin : Option Nat

/-- Whether two atoms are the same key: equal, or one and the same value. -/
def Atom.isSameKey (a b : Atom) : Bool := a.origin == b.origin || a.value.sameKey b.value

/-- A value: an atom, or the collection with a number. -/
inductive Value where
  | atom (a : Atom)
  | collection (number : Nat)

inductive Collection where
  /-- A collection that is to be filled from a node. -/
  | unfilled (node : Nat)
  | list (items : List Value)
  | tuple (items : List Value)
  | set (members : List Atom)
  | object (entries : List (Atom × Value))

/-- Values that are being made from the nodes of a graph. -/
structure Making where
  graph : Graph
  /-- The number of places in the graph as it was read. -/
  places : Nat
  /-- The values of the nodes, as far as they are made. -/
  values : Array (Option Value)
  /-- The collections by number. -/
  collections : Array Collection

namespace Making

/-- What makes values. -/
abbrev Maker := StateT Making (Except Fault)

/-- A new collection. -/
def newCollection (collection : Collection) : Maker Value :=
  modifyGet fun s =>
    (.collection s.collections.size, { s with collections := s.collections.push collection })

/-- The value of a node that is no collection. -/
def atom (g : Graph) (number : Nat) : Except Fault Atom := do
  let { kind, form } := g.node number
  let content ← g.text number
  if kind = .moment && form matches .mapping _ then throw .notAText
  let value ← Scalar.value kind content
  let isShared := kind = .float && Scalar.isNotANumberWord content
  return { value, origin := if isShared then none else some number }

/-- The value of a node, which is made unless it is there. -/
def value (number : Nat) : Maker Value := do
  let s ← get
  match s.values.getD number none with
  | some value => return value
  | none =>
    let value ← match (s.graph.node number).kind with
      | .sequence | .mapping | .set | .pairs => newCollection (.unfilled number)
      | .merge | .whole | .unknown => throw .malformed
      | _ => .atom <$> atom s.graph number
    modify fun s => { s with values := s.values.setIfInBounds number (some value) }
    return value

/-- The value of a node that is a key; no collection may be one. -/
def key (number : Nat) : Maker Atom := do
  match ← value number with
  | .atom a => return a
  | .collection _ => throw .malformed

/-- The entries of a mapping, with those it takes over. -/
def entries (number : Nat) : Maker (List (Atom × Value)) := do
  let s ← get
  let graph ← s.graph.merge s.places number
  set { s with graph }
  (graph.entries number).foldlM (fun made entry => do
    let key ← key entry.1
    let value ← value entry.2
    return Document.putEntry Atom.isSameKey key value made) []

/-- The key and the value of a mapping of one entry. -/
def pair (number : Nat) : Maker Value := do
  match ((← get).graph.node number).form with
  | .mapping [(key, content)] =>
    let key ← value key
    let content ← value content
    newCollection (.tuple [key, content])
  | _ => throw .malformed

/-- What fills the collection of a node. -/
def content (number : Nat) : Maker Collection := do
  let { kind, form } := (← get).graph.node number
  match kind, form with
  | .sequence, .sequence items => .list <$> items.mapM value
  | .pairs, .sequence items => .list <$> items.mapM pair
  | .mapping, .mapping _ => .object <$> entries number
  | .set, .mapping _ => return .set ((← entries number).map Prod.fst)
  | _, _ => throw .malformed

/-- Fills the collections from a number on; on the way more of them are made. -/
def fillFrom : Nat → Nat → Maker Unit
  | 0, _ => return ()
  | fuel + 1, number => do
    match (← get).collections[number]? with
    | none => return ()
    | some (.unfilled node) =>
      let filled ← content node
      modify fun s => { s with collections := s.collections.setIfInBounds number filled }
      fillFrom fuel (number + 1)
    | some _ => fillFrom fuel (number + 1)

/-- The value of the root of a graph, and all collections. Each node makes one collection, and each
place at most one pair. -/
def ofGraph (g : Graph) (root : Nat) : Except Fault (Value × Array Collection) := do
  let places := g.places
  let make : Maker Value := do
    let made ← value root
    fillFrom (g.nodes.size + places + 1) 0
    return made
  let (made, s) ← make.run ⟨g, places, .replicate g.nodes.size none, #[]⟩
  return (made, s.collections)

end Making

end PrismaEsdl.Yaml
