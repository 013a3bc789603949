import PrismaEsdl.Proofs.Yaml.Outcome
import PrismaEsdl.Yaml.Graph.Reading

/-!
Reading nodes in brackets, one step at a time.

Every lemma says what is left to read after a token. Reading only adds nodes, and a node is changed
by nothing but the end of its own collection (`Extends`).
-/

namespace PrismaEsdl.Yaml

/-- Whether a token begins a scalar or a collection in brackets. -/
def Token.startsNode : Token → Bool
  | scalar _ _ | flowSequence | flowMapping => true
  | _ => false

namespace Graph

/-! ### Growth -/

/-- Whether a graph has the nodes of another one from a number on, and perhaps more nodes. -/
structure Extends (first : Nat) (g g' : Graph) : Prop where
  size_le : g.nodes.size ≤ g'.nodes.size
  node_eq {n : Nat} : first ≤ n → n < g.nodes.size → g'.node n = g.node n
  cyclic_eq : g'.cyclic = g.cyclic

namespace Extends

variable {first : Nat} {g g' g'' : Graph}

theorem refl (g : Graph) : Extends first g g := ⟨Nat.le_refl _, fun _ _ => rfl, rfl⟩

theorem trans (before : Extends first g g') (after : Extends first g' g'') :
    Extends first g g'' where
  size_le := Nat.le_trans before.size_le after.size_le
  node_eq later inside :=
    (after.node_eq later (Nat.lt_of_lt_of_le inside before.size_le)).trans
      (before.node_eq later inside)
  cyclic_eq := after.cyclic_eq.trans before.cyclic_eq

theorem weaken {least : Nat} (extends' : Extends least g g') (le : least ≤ first) :
    Extends first g g' :=
  ⟨extends'.size_le, fun later => extends'.node_eq (Nat.le_trans le later), extends'.cyclic_eq⟩

end Extends

theorem node_add_self (g : Graph) (node : Node) : (g.add node).2.node g.nodes.size = node := by
  simp [add, Graph.node]

theorem size_add (g : Graph) (node : Node) : (g.add node).2.nodes.size = g.nodes.size + 1 := by
  simp [add]

theorem extends_add (g : Graph) (node : Node) : Extends 0 g (g.add node).2 where
  size_le := by simp [add]
  node_eq _ inside := by simp [add, Graph.node, Array.getElem?_push, Nat.ne_of_lt inside]
  cyclic_eq := rfl

theorem node_setForm_self {g : Graph} {n : Nat} (inside : n < g.nodes.size) (form : Form) :
    (g.setForm n form).node n = ⟨(g.node n).kind, form⟩ := by
  simp [setForm, change, Graph.node, inside, Array.getElem_modify]

theorem node_setForm_of_ne {g : Graph} {m n : Nat} (other : m ≠ n) (form : Form) :
    (g.setForm n form).node m = g.node m := by
  simp [setForm, change, Graph.node, Array.getElem?_modify, other.symm]

theorem size_setForm (g : Graph) (n : Nat) (form : Form) :
    (g.setForm n form).nodes.size = g.nodes.size := by
  simp [setForm, change]

/-- The end of a collection changes nothing behind its node. -/
theorem extends_setForm (g : Graph) (n : Nat) (form : Form) :
    Extends (n + 1) g (g.setForm n form) where
  size_le := Nat.le_of_eq (size_setForm g n form).symm
  node_eq later _ := node_setForm_of_ne (Nat.ne_of_gt later) form
  cyclic_eq := rfl

/-! ### Steps -/

open Reader

variable {here : Surroundings} {place : Place} {fuel : Nat} {rest : List Token}
  {anchors : List (Text × Nat)} {g : Graph}

theorem run_read_scalar (content : Text) (plain : Bool) :
    (read here place (fuel + 1)).run ⟨.scalar content plain :: rest, anchors, g⟩
      = .ok (g.nodes.size, ⟨rest, anchors,
          (g.add ⟨Tag.absent.scalarKind content plain, .scalar content⟩).2⟩) := by
  rw [read]
  cases place <;> rfl

theorem run_read_sequence :
    (read here place (fuel + 1)).run ⟨.flowSequence :: rest, anchors, g⟩
      = (collection here none .sequence fun here =>
          .sequence <$> flowItems here true fuel).run ⟨rest, anchors, g⟩ := by
  rw [read]
  cases place <;> rfl

theorem run_read_mapping :
    (read here place (fuel + 1)).run ⟨.flowMapping :: rest, anchors, g⟩
      = (collection here none .mapping fun here =>
          .mapping <$> flowEntries here true fuel).run ⟨rest, anchors, g⟩ := by
  rw [read]
  cases place <;> rfl

/-- A collection inside of others has the next number; its content is read inside of it. -/
def Surroundings.within (here : Surroundings) (number : Nat) : Surroundings :=
  { here with around := number :: here.around }

theorem run_collection {kind : Kind} {content : Surroundings → Reader Form} {tokens : List Token} :
    (collection here none kind content).run ⟨tokens, anchors, g⟩
      = if here.around.length < here.limit then
          (do
            let form ← content (here.within g.nodes.size)
            modify fun s => { s with graph := s.graph.setForm g.nodes.size form }
            return g.nodes.size : Reader Nat).run
            ⟨tokens, anchors, (g.add ⟨kind, .scalar []⟩).2⟩
        else .error .tooDeep := by
  have enter : (collection here none kind content).run ⟨tokens, anchors, g⟩
      = ((here.inside g.nodes.size : Reader Surroundings) >>= fun inner => do
          let form ← content inner
          modify fun s => { s with graph := s.graph.setForm g.nodes.size form }
          return g.nodes.size).run ⟨tokens, anchors, (g.add ⟨kind, .scalar []⟩).2⟩ := rfl
  rw [enter]
  unfold Surroundings.inside
  split <;> rfl

/-! ### Items -/

theorem run_flowItems_end (first : Bool) :
    (flowItems here first (fuel + 1)).run ⟨.flowSequenceEnd :: rest, anchors, g⟩
      = .ok ([], ⟨rest, anchors, g⟩) := by
  rw [flowItems]
  cases first <;> rfl

theorem run_flowItems_first {token : Token} (starts : token.startsNode = true) :
    (flowItems here true (fuel + 1)).run ⟨token :: rest, anchors, g⟩
      = (do
          let item ← flowItem here fuel
          return item :: (← flowItems here false fuel) : Reader (List Nat)).run
          ⟨token :: rest, anchors, g⟩ := by
  rw [flowItems]
  cases token <;> first
    | rfl
    | cases starts

theorem run_flowItems_next {token : Token} (starts : token.startsNode = true) :
    (flowItems here false (fuel + 1)).run ⟨.separator :: token :: rest, anchors, g⟩
      = (do
          let item ← flowItem here fuel
          return item :: (← flowItems here false fuel) : Reader (List Nat)).run
          ⟨token :: rest, anchors, g⟩ := by
  rw [flowItems]
  cases token <;> first
    | rfl
    | cases starts

theorem run_flowItem {token : Token} (starts : token.startsNode = true) :
    (flowItem here (fuel + 1)).run ⟨token :: rest, anchors, g⟩
      = (read here .flow fuel).run ⟨token :: rest, anchors, g⟩ := by
  rw [flowItem]
  cases token <;> first
    | rfl
    | cases starts

/-! ### Entries -/

theorem run_flowEntries_end (first : Bool) :
    (flowEntries here first (fuel + 1)).run ⟨.flowMappingEnd :: rest, anchors, g⟩
      = .ok ([], ⟨rest, anchors, g⟩) := by
  rw [flowEntries]
  cases first <;> rfl

theorem run_flowEntries_first {token : Token} (starts : token = .key ∨ token.startsNode = true) :
    (flowEntries here true (fuel + 1)).run ⟨token :: rest, anchors, g⟩
      = (do
          let entry ← flowEntry here fuel
          return entry :: (← flowEntries here false fuel) : Reader (List (Nat × Nat))).run
          ⟨token :: rest, anchors, g⟩ := by
  rw [flowEntries]
  rcases starts with rfl | starts
  · rfl
  · cases token <;> first
      | rfl
      | cases starts

theorem run_flowEntries_next {token : Token} (starts : token = .key ∨ token.startsNode = true) :
    (flowEntries here false (fuel + 1)).run ⟨.separator :: token :: rest, anchors, g⟩
      = (do
          let entry ← flowEntry here fuel
          return entry :: (← flowEntries here false fuel) : Reader (List (Nat × Nat))).run
          ⟨token :: rest, anchors, g⟩ := by
  rw [flowEntries]
  rcases starts with rfl | starts
  · rfl
  · cases token <;> first
      | rfl
      | cases starts

theorem run_flowEntry_key :
    (flowEntry here (fuel + 1)).run ⟨.key :: rest, anchors, g⟩
      = (readEntry here .flow fuel).run ⟨rest, anchors, g⟩ := by
  rw [flowEntry]
  rfl

/-- Without a mark for a key a node is a key alone. -/
theorem run_flowEntry_node {token : Token} (starts : token.startsNode = true) :
    (flowEntry here (fuel + 1)).run ⟨token :: rest, anchors, g⟩
      = (do
          let key ← read here .flow fuel
          return (key, ← newNode .empty) : Reader (Nat × Nat)).run ⟨token :: rest, anchors, g⟩ := by
  rw [flowEntry]
  cases token <;> first
    | rfl
    | cases starts

/-- After a key alone there is no place for a colon. -/
theorem run_flowEntries_value :
    (flowEntries here false (fuel + 1)).run ⟨.value :: rest, anchors, g⟩ = .error .malformed := by
  rw [flowEntries]
  rfl

theorem readEntry_succ (place : Place) :
    readEntry here place (fuel + 1) = do
      let key ← readOptional here place fuel
      return (key, ← readValue here place fuel) := by
  rw [readEntry]

theorem run_readOptional {token : Token} (starts : token.startsNode = true) :
    (readOptional here .flow (fuel + 1)).run ⟨token :: rest, anchors, g⟩
      = (read here .flow fuel).run ⟨token :: rest, anchors, g⟩ := by
  rw [readOptional]
  cases token <;> first
    | rfl
    | cases starts

theorem run_readValue :
    (readValue here .flow (fuel + 1)).run ⟨.value :: rest, anchors, g⟩
      = (readOptional here .flow fuel).run ⟨rest, anchors, g⟩ := by
  rw [readValue]
  rfl

end Graph

end PrismaEsdl.Yaml
