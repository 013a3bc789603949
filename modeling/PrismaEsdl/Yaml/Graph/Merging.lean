import PrismaEsdl.Yaml.Graph

/-!
Entries that a mapping takes over.

A mapping may say that it takes over the entries of another mapping, or of several. What it takes
over comes before its own entries, so that its own prevail; of several mappings the first one
prevails, so its entries come last. Where a mapping takes over from itself on a way around, it
finds the entries that are there at that time.
-/

namespace PrismaEsdl.Yaml.Graph

/-- The mappings that the value of a merging entry names, in order. -/
def sources (g : Graph) (value : Nat) : Except Fault (List Nat) :=
  match (g.node value).form with
  | .mapping _ => .ok [value]
  | .sequence items =>
    if items.all fun item => (g.node item).form matches .mapping _ then .ok items
    else .error .malformed
  | .scalar _ => .error .malformed

/-- The value of the first merging entry among some entries, and the entries without it. -/
def splitMerge? (g : Graph) : List (Nat × Nat) → Option (Nat × List (Nat × Nat))
  | [] => none
  | (key, value) :: rest =>
    if (g.node key).kind = .merge then some (value, rest)
    else (g.splitMerge? rest).map fun (found, others) => (found, (key, value) :: others)

/-- The graph in which the keys of some entries that stand for the whole of their mapping are
texts. -/
def nameKeys (g : Graph) (entries : List (Nat × Nat)) : Graph :=
  entries.foldl (fun g (key, _) =>
    if (g.node key).kind = .whole then g.change key fun node => { node with kind := .text }
    else g) g

/-- The graph in which a mapping and those it takes over from have no merging entries any more.
Each step takes one away, so the number of entries bounds the steps. -/
def mergeWithin : Nat → Graph → Nat → Except Fault Graph
  | 0, _, _ => .error .tooDeep
  | fuel + 1, g, number =>
    match g.splitMerge? (g.entries number) with
    | none => .ok (g.nameKeys (g.entries number))
    | some (value, others) => do
      let g := g.setForm number (.mapping others)
      let (taken, g) ← (← g.sources value).foldlM (fun (taken, g) source => do
        let g ← mergeWithin fuel g source
        return (g.entries source ++ taken, g)) ([], g)
      let g ← mergeWithin fuel g number
      return g.setForm number (.mapping (taken ++ g.entries number))

/-- The graph in which a mapping has the entries it takes over; `places` is the number of places in
the graph as it was read. -/
def merge (g : Graph) (places number : Nat) : Except Fault Graph :=
  mergeWithin (2 * places + 2) g number

end PrismaEsdl.Yaml.Graph
