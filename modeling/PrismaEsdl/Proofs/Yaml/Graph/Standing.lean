import Mathlib.Data.List.Forall2
import PrismaEsdl.Proofs.Document.Json
import PrismaEsdl.Proofs.Yaml.Graph.Reading

/-!
Documents that nodes stand for.

A node stands for a document if it is a scalar that the document is the value of, or a collection of
nodes that stand for its items or contents. The nodes in a collection have greater numbers than the
collection, so no node contains itself, and a node stands for one document only
(`Stands.document_eq`). What happens to nodes in front of it does not matter (`Stands.extends`).
-/

namespace PrismaEsdl.Yaml.Graph

/-- Whether a node is a text. -/
structure IsText (g : Graph) (n : Nat) (t : Text) : Prop where
  inside : n < g.nodes.size
  node_eq : g.node n = ⟨.text, .scalar t⟩

/-- Whether a node stands for a document, and the nodes inside of it come after it. -/
inductive Stands (g : Graph) : Nat → Document → Prop where
  | scalar {n : Nat} {kind : Kind} {content : Text} {value : Document}
      (inside : n < g.nodes.size) (node_eq : g.node n = ⟨kind, .scalar content⟩)
      (value_eq : Scalar.value kind content = .ok value) : Stands g n value
  | sequence {n : Nat} {parts : List (Nat × Document)}
      (inside : n < g.nodes.size)
      (node_eq : g.node n = ⟨.sequence, .sequence (parts.map Prod.fst)⟩)
      (later : ∀ part ∈ parts, n < part.1)
      (items : ∀ part ∈ parts, Stands g part.1 part.2) : Stands g n (.list (parts.map Prod.snd))
  | mapping {n : Nat} {parts : List ((Nat × Nat) × (Text × Document))}
      (inside : n < g.nodes.size)
      (node_eq : g.node n = ⟨.mapping, .mapping (parts.map Prod.fst)⟩)
      (later : ∀ part ∈ parts, n < part.1.1 ∧ n < part.1.2)
      (keys : ∀ part ∈ parts, g.IsText part.1.1 part.2.1)
      (contents : ∀ part ∈ parts, Stands g part.1.2 part.2.2) :
      Stands g n (.ofEntries (Document.fieldEntries (parts.map Prod.snd)))

variable {g g' : Graph} {n first : Nat} {t u : Text} {d e : Document}

theorem IsText.extends (isText : g.IsText n t) (extends' : Extends first g g')
    (later : first ≤ n) : g'.IsText n t :=
  ⟨Nat.lt_of_lt_of_le isText.inside extends'.size_le,
    (extends'.node_eq later isText.inside).trans isText.node_eq⟩

theorem IsText.text_eq (isText : g.IsText n t) (isText' : g.IsText n u) : t = u := by
  have same := isText.node_eq.symm.trans isText'.node_eq
  simpa using same

theorem Stands.inside (stands : Stands g n d) : n < g.nodes.size := by
  cases stands with
  | scalar inside _ _ | sequence inside _ _ _ | mapping inside _ _ _ _ => exact inside

/-- A node stands for the same document where nothing changes but nodes in front of it. -/
theorem Stands.extends (stands : Stands g n d) (extends' : Extends first g g')
    (later : first ≤ n) : Stands g' n d := by
  induction stands with
  | scalar inside node_eq value_eq =>
    exact .scalar (Nat.lt_of_lt_of_le inside extends'.size_le)
      ((extends'.node_eq later inside).trans node_eq) value_eq
  | sequence inside node_eq behind items ih =>
    exact .sequence (Nat.lt_of_lt_of_le inside extends'.size_le)
      ((extends'.node_eq later inside).trans node_eq) behind fun part member =>
        ih part member (Nat.le_trans later (Nat.le_of_lt (behind part member)))
  | mapping inside node_eq behind keys contents ih =>
    exact .mapping (Nat.lt_of_lt_of_le inside extends'.size_le)
      ((extends'.node_eq later inside).trans node_eq) behind
      (fun part member => (keys part member).extends extends'
        (Nat.le_trans later (Nat.le_of_lt (behind part member).1)))
      fun part member => ih part member
        (Nat.le_trans later (Nat.le_of_lt (behind part member).2))

/-- Second parts are related where they belong to the same first part. -/
theorem forall₂_of_map_fst_eq {α β γ : Type} {R : β → γ → Prop} {l : List (α × β)}
    {m : List (α × γ)} (same : l.map Prod.fst = m.map Prod.fst)
    (related : ∀ a b c, (a, b) ∈ l → (a, c) ∈ m → R b c) :
    List.Forall₂ R (l.map Prod.snd) (m.map Prod.snd) := by
  induction l generalizing m with
  | nil =>
    obtain rfl := List.map_eq_nil_iff.mp same.symm
    exact .nil
  | cons p l ih =>
    cases m with
    | nil => cases same
    | cons q m =>
      obtain ⟨head, tail⟩ := List.cons.inj same
      obtain ⟨a, b⟩ := p
      obtain ⟨a', c⟩ := q
      obtain rfl : a = a' := head
      exact .cons (related a b c List.mem_cons_self List.mem_cons_self) <| ih tail
        fun a b c left right =>
          related a b c (List.mem_cons_of_mem _ left) (List.mem_cons_of_mem _ right)

theorem Stands.document_eq (stands : Stands g n d) (stands' : Stands g n e) : d = e := by
  induction stands generalizing e with
  | scalar _ node_eq value_eq =>
    cases stands' with
    | scalar _ node_eq' value_eq' =>
      obtain ⟨rfl, same⟩ := Node.mk.inj (node_eq.symm.trans node_eq')
      obtain rfl := Form.scalar.inj same
      exact Except.ok.inj (value_eq.symm.trans value_eq')
    | sequence _ node_eq' | mapping _ node_eq' => cases node_eq.symm.trans node_eq'
  | @sequence _ parts _ node_eq _ items ih =>
    cases stands' with
    | @sequence _ parts' _ node_eq' _ items' =>
      have same := Form.sequence.inj (congrArg Node.form (node_eq.symm.trans node_eq'))
      have items_eq := forall₂_of_map_fst_eq (R := Eq) same fun a b c left right =>
        ih _ left (items' _ right)
      rw [List.forall₂_eq_eq_eq] at items_eq
      exact congrArg Document.list items_eq
    | scalar _ node_eq' | mapping _ node_eq' => cases node_eq.symm.trans node_eq'
  | @mapping _ parts _ node_eq _ keys contents ih =>
    cases stands' with
    | @mapping _ parts' _ node_eq' _ keys' contents' =>
      have same := Form.mapping.inj (congrArg Node.form (node_eq.symm.trans node_eq'))
      have fields_eq := forall₂_of_map_fst_eq (R := Eq) same fun a b c left right =>
        Prod.ext ((keys _ left).text_eq (keys' _ right)) (ih _ left (contents' _ right))
      rw [List.forall₂_eq_eq_eq] at fields_eq
      rw [fields_eq]
    | scalar _ node_eq' | sequence _ node_eq' => cases node_eq.symm.trans node_eq'

end PrismaEsdl.Yaml.Graph
