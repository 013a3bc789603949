import PrismaEsdl.Yaml.Scalar

/-!
Nodes, and the graph they make.

Nodes have numbers, and a collection holds the numbers of the nodes in it. So a node with a name
may stand in several places, and a collection may contain itself.
-/

namespace PrismaEsdl.Yaml

/-- What a node is written as. -/
inductive Form where
  | scalar (content : Text)
  | sequence (items : List Nat)
  | mapping (entries : List (Nat × Nat))
  deriving Inhabited

/-- A node, with the kind that its tag or its form gives it. -/
structure Node where
  kind : Kind
  form : Form
  deriving Inhabited

/-- What stands where a node is left out. -/
def Node.empty : Node := ⟨.null, .scalar []⟩

/-- The nodes of a document by number. -/
structure Graph where
  nodes : Array Node
  /-- Whether a node may contain itself. -/
  cyclic : Bool

namespace Graph

def empty : Graph := ⟨#[], false⟩

/-- The node with a number. -/
def node (g : Graph) (number : Nat) : Node := g.nodes.getD number .empty

/-- Adds a node, which has the next number. -/
def add (g : Graph) (node : Node) : Nat × Graph :=
  (g.nodes.size, { g with nodes := g.nodes.push node })

/-- Changes the node with a number. -/
def change (g : Graph) (number : Nat) (f : Node → Node) : Graph :=
  { g with nodes := g.nodes.modify number f }

def setForm (g : Graph) (number : Nat) (form : Form) : Graph :=
  g.change number fun node => { node with form }

/-- The entries of a mapping; any other node has none. -/
def entries (g : Graph) (number : Nat) : List (Nat × Nat) :=
  match (g.node number).form with
  | .mapping entries => entries
  | .scalar _ | .sequence _ => []

/-- The number of places in which nodes stand in others. -/
def places (g : Graph) : Nat :=
  g.nodes.foldl (fun count node =>
    match node.form with
    | .scalar _ => count
    | .sequence items => count + items.length
    | .mapping entries => count + entries.length) 0

/-- The text of a node of a scalar kind. A mapping stands for the content under the key that stands
for the whole of it. -/
def scalarText (g : Graph) : Nat → Nat → Except Fault Text
  | 0, _ => .error .tooDeep
  | fuel + 1, number =>
    match (g.node number).form with
    | .scalar content => .ok content
    | .sequence _ => .error .malformed
    | .mapping entries =>
      match entries.find? fun entry => (g.node entry.1).kind = .whole with
      | some (_, value) => g.scalarText fuel value
      | none => .error .malformed

/-- The text of a node of a scalar kind; the mappings on the way to it are all different. -/
def text (g : Graph) (number : Nat) : Except Fault Text := g.scalarText (g.nodes.size + 1) number

end Graph

end PrismaEsdl.Yaml
