import Mathlib.Data.Fintype.Card
import PrismaEsdl.Proofs.Yaml.Graph.Standing
import PrismaEsdl.Yaml.Making

/-!
The values of nodes that stand for documents.

While values are made, every value that is there belongs to its node (`IsSound`): an atom is the
value of a scalar, and a collection is to be filled from its node or holds the values of the nodes
in it. No two nodes have the same collection, so there are not more collections than nodes, and in
the end all of them are filled (`exists_making`).
-/

namespace PrismaEsdl.Yaml

namespace Making

variable {g : Graph} {s s' : Making} {n m c k fuel : Nat} {v : Value}

/-! ### States -/

/-- The value of a node, if it is made. -/
def made (s : Making) (n : Nat) : Option Value := s.values.getD n none

/-- The state with a value for a node. -/
def set (s : Making) (n : Nat) (v : Value) : Making :=
  { s with values := s.values.setIfInBounds n (some v) }

/-- The state with one more collection, which is to be filled from a node. -/
def push (s : Making) (n : Nat) : Making :=
  { s with collections := s.collections.push (.unfilled n) }

/-- The state in which a collection is filled. -/
def fill (s : Making) (c : Nat) (filled : Collection) : Making :=
  { s with collections := s.collections.setIfInBounds c filled }

theorem made_set (inside : n < s.values.size) (m : Nat) :
    (s.set n v).made m = if n = m then some v else s.made m := by
  rw [made, made, set, Array.getD_eq_getD_getElem?, Array.getElem?_setIfInBounds,
    Array.getD_eq_getD_getElem?]
  by_cases same : n = m
  · rw [if_pos same, if_pos same, if_pos inside]
    rfl
  · rw [if_neg same, if_neg same]

theorem inside_of_made (there : s.made n = some v) : n < s.values.size := by
  by_contra outside
  rw [made, Array.getD_eq_getD_getElem?, Array.getElem?_eq_none (not_lt.mp outside)] at there
  cases there

/-! ### Making one value -/

theorem run_value (n : Nat) (s : Making) :
    (value n).run s = match s.made n with
      | some v => .ok (v, s)
      | none => (do
        let v ← match (s.graph.node n).kind with
          | .sequence | .mapping | .set | .pairs => newCollection (.unfilled n)
          | .merge | .whole | .unknown => throw .malformed
          | _ => .atom <$> atom s.graph n
        modify (·.set n v)
        return v : Maker Value).run s := by
  unfold value
  rw [StateT.run_bind]
  change (match s.made n with | some v => pure v | none => _ : Maker Value).run s = _
  cases s.made n <;> rfl

/-- The value of a scalar node. -/
def atomOf (n : Nat) (kind : Kind) (content : Text) (value : Document) : Atom :=
  ⟨value, if kind = .float && Scalar.isNotANumberWord content then none else some n⟩

theorem atom_eq {kind : Kind} {content : Text} {d : Document}
    (node_eq : g.node n = ⟨kind, .scalar content⟩) (value_eq : Scalar.value kind content = .ok d) :
    atom g n = .ok (atomOf n kind content d) := by
  have text_eq : g.text n = .ok content := by simp [Graph.text, Graph.scalarText, node_eq]
  unfold atom
  rw [node_eq, text_eq]
  simp [value_eq, atomOf, pure, Except.pure, bind, Except.bind]

theorem run_value_of_scalar {kind : Kind} {content : Text} {d : Document}
    (new : s.made n = none) (node_eq : s.graph.node n = ⟨kind, .scalar content⟩)
    (value_eq : Scalar.value kind content = .ok d) :
    (value n).run s
      = .ok (.atom (atomOf n kind content d), s.set n (.atom (atomOf n kind content d))) := by
  have atom_eq := atom_eq node_eq value_eq
  rw [run_value, new, node_eq]
  dsimp only
  rw [atom_eq]
  cases kind <;> first
    | rfl
    | cases value_eq

theorem run_value_of_collection (new : s.made n = none)
    (kind : (s.graph.node n).kind = .sequence ∨ (s.graph.node n).kind = .mapping) :
    (value n).run s
      = .ok (.collection s.collections.size,
          (s.push n).set n (.collection s.collections.size)) := by
  rw [run_value, new]
  rcases kind with kind | kind <;> rw [kind] <;> rfl

/-! ### Soundness -/

/-- Whether an atom is the value of a scalar node. -/
def IsAtom (g : Graph) (n : Nat) (a : Atom) : Prop :=
  ∃ kind content d, g.node n = ⟨kind, .scalar content⟩ ∧ Scalar.value kind content = .ok d ∧
    a = atomOf n kind content d

/-- Whether a node is a collection that stands for a document. -/
structure IsParent (g : Graph) (n : Nat) : Prop where
  stands : ∃ d, g.Stands n d
  kind : (g.node n).kind = .sequence ∨ (g.node n).kind = .mapping

/-- The entries after some entries were put in one after the other. -/
def putAtoms (known entries : List (Atom × Value)) : List (Atom × Value) :=
  entries.foldl (fun known entry => Document.putEntry Atom.isSameKey entry.1 entry.2 known) known

/-- Whether a collection is to be filled from a node, or holds the values of the nodes in it. -/
inductive Fills (g : Graph) (made : Nat → Option Value) (n : Nat) : Collection → Prop where
  | unfilled : Fills g made n (.unfilled n)
  | list {parts : List (Nat × Value)}
      (node_eq : g.node n = ⟨.sequence, .sequence (parts.map Prod.fst)⟩)
      (items : ∀ part ∈ parts, made part.1 = some part.2) :
      Fills g made n (.list (parts.map Prod.snd))
  | object {parts : List ((Nat × Nat) × (Atom × Value))}
      (node_eq : g.node n = ⟨.mapping, .mapping (parts.map Prod.fst)⟩)
      (keys : ∀ part ∈ parts, made part.1.1 = some (.atom part.2.1))
      (contents : ∀ part ∈ parts, made part.1.2 = some part.2.2) :
      Fills g made n (.object (putAtoms [] (parts.map Prod.snd)))

/-- Whether the values that are made belong to the nodes of a graph. -/
structure IsSound (g : Graph) (s : Making) : Prop where
  graph_eq : s.graph = g
  size_eq : s.values.size = g.nodes.size
  atom {n : Nat} {a : Atom} : s.made n = some (.atom a) → IsAtom g n a
  parent {n c : Nat} : s.made n = some (.collection c) → IsParent g n
  collection {n c : Nat} : s.made n = some (.collection c) →
    ∃ filled, s.collections[c]? = some filled ∧ Fills g s.made n filled
  injective {m n c : Nat} :
    s.made m = some (.collection c) → s.made n = some (.collection c) → m = n
  exists_node {c : Nat} : c < s.collections.size → ∃ n, s.made n = some (.collection c)

/-- Whether values are sound, and those that were there before are still there. -/
structure Advances (g : Graph) (s s' : Making) : Prop where
  sound : IsSound g s'
  made_eq {n : Nat} {v : Value} : s.made n = some v → s'.made n = some v
  collection_eq {c : Nat} {filled : Collection} :
    s.collections[c]? = some filled → s'.collections[c]? = some filled

theorem Advances.refl (sound : IsSound g s) : Advances g s s := ⟨sound, id, id⟩

theorem Advances.trans {s'' : Making} (first : Advances g s s') (second : Advances g s' s'') :
    Advances g s s'' :=
  ⟨second.sound, second.made_eq ∘ first.made_eq, second.collection_eq ∘ first.collection_eq⟩

theorem Fills.mono {made made' : Nat → Option Value} {filled : Collection}
    (fills : Fills g made n filled) (grows : ∀ m v, made m = some v → made' m = some v) :
    Fills g made' n filled := by
  cases fills with
  | unfilled => exact .unfilled
  | list node_eq items => exact .list node_eq fun part member => grows _ _ (items part member)
  | object node_eq keys contents =>
    exact .object node_eq (fun part member => grows _ _ (keys part member))
      fun part member => grows _ _ (contents part member)

/-- No value goes where one is made for a node that had none. -/
theorem made_set_of_made (sound : IsSound g s) (inside : n < g.nodes.size) (new : s.made n = none)
    {u : Value} (there : s.made m = some v) : (s.set n u).made m = some v := by
  rw [made_set (sound.size_eq ▸ inside), if_neg, there]
  rintro rfl
  cases new.symm.trans there

theorem IsSound.set_atom {a : Atom} (sound : IsSound g s) (inside : n < g.nodes.size)
    (new : s.made n = none) (isAtom : IsAtom g n a) : Advances g s (s.set n (.atom a)) where
  made_eq := made_set_of_made sound inside new
  collection_eq := id
  sound := by
    have made_eq (m : Nat) := made_set (v := .atom a) (sound.size_eq ▸ inside) m
    have old {m c : Nat} (there : (s.set n (.atom a)).made m = some (.collection c)) :
        s.made m = some (.collection c) := by
      rw [made_eq] at there
      split at there
      · cases there
      · exact there
    refine ⟨sound.graph_eq, ?_, ?_, fun there => sound.parent (old there), ?_, ?_, ?_⟩
    · exact (Array.size_setIfInBounds ..).trans sound.size_eq
    · intro m b there
      rw [made_eq] at there
      split at there
      next same => cases there; exact same ▸ isAtom
      next => exact sound.atom there
    · intro m c there
      obtain ⟨filled, found, fills⟩ := sound.collection (old there)
      exact ⟨filled, found, fills.mono fun _ _ => made_set_of_made sound inside new⟩
    · exact fun left right => sound.injective (old left) (old right)
    · intro c small
      obtain ⟨m, there⟩ := sound.exists_node small
      exact ⟨m, made_set_of_made sound inside new there⟩

theorem IsSound.push (sound : IsSound g s) (isParent : IsParent g n) (new : s.made n = none) :
    Advances g s ((s.push n).set n (.collection s.collections.size)) := by
  have inside : n < g.nodes.size := isParent.stands.choose_spec.inside
  have made_eq (m : Nat) : ((s.push n).set n (.collection s.collections.size)).made m
      = if n = m then some (.collection s.collections.size) else s.made m :=
    made_set (s := s.push n) (sound.size_eq ▸ inside) m
  have kept {m : Nat} {v : Value} (there : s.made m = some v) :
      ((s.push n).set n (.collection s.collections.size)).made m = some v := by
    rw [made_eq, if_neg, there]
    rintro rfl
    cases new.symm.trans there
  have collection_eq {c : Nat} {filled : Collection} (there : s.collections[c]? = some filled) :
      (s.push n).collections[c]? = some filled := by
    have small : c < s.collections.size := (Array.getElem?_eq_some_iff.mp there).1
    rw [Making.push, Array.getElem?_push, if_neg small.ne, there]
  have old {m c : Nat} (there : s.made m = some (.collection c)) : c < s.collections.size := by
    obtain ⟨filled, found, -⟩ := sound.collection there
    exact (Array.getElem?_eq_some_iff.mp found).1
  refine ⟨⟨sound.graph_eq, ?_, ?_, ?_, ?_, ?_, ?_⟩, kept, collection_eq⟩
  · exact (Array.size_setIfInBounds ..).trans sound.size_eq
  · intro m a there
    rw [made_eq] at there
    split at there
    · cases there
    · exact sound.atom there
  · intro m c there
    rw [made_eq] at there
    split at there
    next same => exact same ▸ isParent
    next => exact sound.parent there
  · intro m c there
    rw [made_eq] at there
    split at there
    next same =>
      cases there
      exact ⟨.unfilled n, Array.getElem?_push_size, same ▸ .unfilled⟩
    next =>
      obtain ⟨filled, found, fills⟩ := sound.collection there
      exact ⟨filled, collection_eq found, fills.mono fun _ _ => kept⟩
  · intro l m c left right
    rw [made_eq] at left right
    split at left <;> split at right
    next same same' => exact same.symm.trans same'
    next => cases left; exact absurd (old right) (lt_irrefl _)
    next => cases right; exact absurd (old left) (lt_irrefl _)
    next => exact sound.injective left right
  · intro c small
    have size_eq : (s.push n).collections.size = s.collections.size + 1 := Array.size_push ..
    rcases Nat.lt_succ_iff_lt_or_eq.mp (size_eq ▸ small) with small | rfl
    · obtain ⟨m, there⟩ := sound.exists_node small
      exact ⟨m, kept there⟩
    · exact ⟨n, by rw [made_eq, if_pos rfl]⟩

/-- The value of a node that stands for a document is made. -/
theorem ends_value {d : Document} (sound : IsSound g s) (stands : g.Stands n d) :
    Ends ((value n).run s) none fun v s' => Advances g s s' ∧ s'.made n = some v := by
  cases known : s.made n with
  | some v => exact ⟨v, s, by rw [run_value, known], .refl sound, known⟩
  | none =>
    have inside := stands.inside
    have parent (kind : (g.node n).kind = .sequence ∨ (g.node n).kind = .mapping) :
        Ends ((value n).run s) none fun v s' => Advances g s s' ∧ s'.made n = some v := by
      refine ⟨_, _, run_value_of_collection known (sound.graph_eq ▸ kind),
        sound.push ⟨⟨d, stands⟩, kind⟩ known, ?_⟩
      rw [made_set (sound.size_eq ▸ inside), if_pos rfl]
    cases stands with
    | scalar _ node_eq value_eq =>
      refine ⟨_, _, run_value_of_scalar known (sound.graph_eq ▸ node_eq) value_eq,
        sound.set_atom inside known ⟨_, _, _, node_eq, value_eq, rfl⟩, ?_⟩
      rw [made_set (sound.size_eq ▸ inside), if_pos rfl]
    | sequence _ node_eq _ _ => exact parent (Or.inl (by rw [node_eq]))
    | mapping _ node_eq _ _ _ => exact parent (Or.inr (by rw [node_eq]))

/-- The values of nodes that stand for documents are made. -/
theorem ends_values {children : List Nat} (sound : IsSound g s)
    (stands : ∀ child ∈ children, ∃ d, g.Stands child d) :
    Ends ((children.mapM value).run s) none fun values s' => Advances g s s' ∧
      ∃ parts : List (Nat × Value), children = parts.map Prod.fst ∧ values = parts.map Prod.snd ∧
        ∀ part ∈ parts, s'.made part.1 = some part.2 := by
  induction children generalizing s with
  | nil => exact ⟨_, _, rfl, .refl sound, [], rfl, rfl, by simp⟩
  | cons child children ih =>
    obtain ⟨d, first⟩ := stands child List.mem_cons_self
    rw [List.mapM_cons]
    refine (ends_value sound first).bind fun v s' ⟨advances, there⟩ => ?_
    refine (ih advances.sound fun other member => stands other (List.mem_cons_of_mem _ member)).map
      fun values s'' ⟨advances', parts, children_eq, values_eq, made_eq⟩ => ?_
    refine ⟨advances.trans advances', (child, v) :: parts, ?_, ?_, ?_⟩
    · rw [children_eq]; rfl
    · rw [values_eq]; rfl
    · intro part member
      rcases List.mem_cons.mp member with rfl | member
      · exact advances'.made_eq there
      · exact made_eq part member

/-! ### Entries -/

/-- The keys of a mapping of texts take nothing over. -/
theorem splitMerge?_eq_none {entries : List (Nat × Nat)}
    (keys : ∀ entry ∈ entries, (g.node entry.1).kind = .text) : g.splitMerge? entries = none := by
  induction entries with
  | nil => rfl
  | cons entry entries ih =>
    have key := keys entry List.mem_cons_self
    rw [Graph.splitMerge?, if_neg (by rw [key]; decide),
      ih fun other member => keys other (List.mem_cons_of_mem _ member)]
    rfl

theorem nameKeys_eq_self {entries : List (Nat × Nat)}
    (keys : ∀ entry ∈ entries, (g.node entry.1).kind = .text) : g.nameKeys entries = g := by
  unfold Graph.nameKeys
  induction entries with
  | nil => rfl
  | cons entry entries ih =>
    have key : (g.node entry.1).kind = .text := keys entry List.mem_cons_self
    rw [List.foldl_cons]
    dsimp only
    rw [if_neg (by rw [key]; decide)]
    exact ih fun other member => keys other (List.mem_cons_of_mem _ member)

theorem merge_eq_self (keys : ∀ entry ∈ g.entries n, (g.node entry.1).kind = .text)
    (places : Nat) : g.merge places n = .ok g := by
  rw [Graph.merge, Graph.mergeWithin, splitMerge?_eq_none keys]
  exact congrArg Except.ok (nameKeys_eq_self keys)

theorem run_entries (sound : IsSound g s)
    (keys : ∀ entry ∈ g.entries n, (g.node entry.1).kind = .text) :
    (entries n).run s = ((g.entries n).foldlM (fun known entry => do
      let key ← key entry.1
      let value ← value entry.2
      return Document.putEntry Atom.isSameKey key value known) [] : Maker _).run s := by
  obtain ⟨graph, places, values, collections⟩ := s
  obtain rfl : graph = g := sound.graph_eq
  unfold entries
  rw [StateT.run_bind, StateT.run_get, pure_bind, StateT.run_bind]
  dsimp only
  rw [merge_eq_self keys]
  rfl

theorem ends_key {t : Text} (sound : IsSound g s) (isText : g.IsText n t) :
    Ends ((key n).run s) none fun a s' => Advances g s s' ∧ s'.made n = some (.atom a) := by
  have stands : g.Stands n (.text t) := .scalar isText.inside isText.node_eq rfl
  unfold key
  refine Ends.bind (ends_value sound stands) fun v s' ended => ?_
  obtain ⟨advances, there⟩ := ended
  cases v with
  | atom a => exact Ends.pure ⟨advances, there⟩
  | collection c =>
    have kind := (advances.sound.parent there).kind
    rw [isText.node_eq] at kind
    rcases kind with kind | kind <;> cases kind

/-- The entries of a mapping of texts and nodes that stand for documents are made. -/
theorem ends_foldlM {children : List (Nat × Nat)} {known : List (Atom × Value)}
    (sound : IsSound g s)
    (stands : ∀ child ∈ children, (∃ t, g.IsText child.1 t) ∧ ∃ d, g.Stands child.2 d) :
    Ends ((children.foldlM (fun known entry => do
      let key ← key entry.1
      let value ← value entry.2
      return Document.putEntry Atom.isSameKey key value known) known : Maker _).run s) none
      fun entries s' => Advances g s s' ∧
        ∃ parts : List ((Nat × Nat) × (Atom × Value)), children = parts.map Prod.fst ∧
          entries = putAtoms known (parts.map Prod.snd) ∧
          ∀ part ∈ parts, s'.made part.1.1 = some (.atom part.2.1) ∧
            s'.made part.1.2 = some part.2.2 := by
  induction children generalizing s known with
  | nil => exact ⟨_, _, rfl, .refl sound, [], rfl, rfl, by simp⟩
  | cons child children ih =>
    obtain ⟨⟨t, isText⟩, d, content⟩ := stands child List.mem_cons_self
    rw [List.foldlM_cons, bind_assoc]
    refine (ends_key sound isText).bind fun a s₁ ⟨advances₁, key⟩ => ?_
    rw [bind_assoc]
    refine (ends_value advances₁.sound content).bind fun v s₂ ⟨advances₂, value⟩ => ?_
    rw [pure_bind]
    refine (ih advances₂.sound fun other member =>
      stands other (List.mem_cons_of_mem _ member)).mono
      fun entries s₃ ⟨advances₃, parts, children_eq, entries_eq, made_eq⟩ => ?_
    refine ⟨(advances₁.trans advances₂).trans advances₃, (child, a, v) :: parts, ?_, ?_, ?_⟩
    · rw [children_eq]; rfl
    · rw [entries_eq]; rfl
    · intro part member
      rcases List.mem_cons.mp member with rfl | member
      · exact ⟨advances₃.made_eq (advances₂.made_eq key), advances₃.made_eq value⟩
      · exact made_eq part member

/-! ### Filling -/

theorem run_content (sound : IsSound g s) (n : Nat) :
    (content n).run s = (match (g.node n).kind, (g.node n).form with
      | .sequence, .sequence items => .list <$> items.mapM value
      | .pairs, .sequence items => .list <$> items.mapM pair
      | .mapping, .mapping _ => .object <$> entries n
      | .set, .mapping _ => return .set ((← entries n).map Prod.fst)
      | _, _ => throw .malformed : Maker Collection).run s := by
  rw [← sound.graph_eq]
  rfl

/-- What fills the collection of a node that stands for a document is made. -/
theorem ends_content (sound : IsSound g s) (isParent : IsParent g n) :
    Ends ((content n).run s) none fun filled s' =>
      Advances g s s' ∧ Fills g s'.made n filled ∧ ∀ m, filled ≠ .unfilled m := by
  obtain ⟨⟨d, stands⟩, kind⟩ := isParent
  rw [run_content sound]
  cases stands with
  | scalar _ node_eq value_eq =>
    rw [node_eq] at kind
    rcases kind with rfl | rfl <;> cases value_eq
  | @sequence _ parts _ node_eq _ items =>
    rw [node_eq]
    refine (ends_values sound ?_).map
      fun values s' ⟨advances, made, children_eq, values_eq, made_eq⟩ =>
        ⟨advances, values_eq ▸ .list (node_eq.trans (children_eq ▸ rfl)) made_eq, by simp⟩
    intro child member
    obtain ⟨part, listed, rfl⟩ := List.mem_map.mp member
    exact ⟨_, items part listed⟩
  | @mapping _ parts _ node_eq _ keys contents =>
    have entries_eq : g.entries n = parts.map Prod.fst := by rw [Graph.entries, node_eq]
    rw [node_eq]
    dsimp only
    have ends : Ends ((entries n).run s) none fun entries s' => Advances g s s' ∧
        ∃ made : List ((Nat × Nat) × (Atom × Value)), parts.map Prod.fst = made.map Prod.fst ∧
          entries = putAtoms [] (made.map Prod.snd) ∧
          ∀ part ∈ made, s'.made part.1.1 = some (.atom part.2.1) ∧
            s'.made part.1.2 = some part.2.2 := by
      rw [run_entries sound, entries_eq]
      · refine ends_foldlM sound fun child member => ?_
        obtain ⟨part, listed, rfl⟩ := List.mem_map.mp member
        exact ⟨⟨_, keys part listed⟩, _, contents part listed⟩
      · intro entry member
        rw [entries_eq] at member
        obtain ⟨part, listed, rfl⟩ := List.mem_map.mp member
        rw [(keys part listed).node_eq]
    exact ends.map fun entries s' ⟨advances, made, children_eq, entries_eq, made_eq⟩ =>
      ⟨advances, entries_eq ▸ .object (node_eq.trans (children_eq ▸ rfl))
        (fun part member => (made_eq part member).1)
        fun part member => (made_eq part member).2, by simp⟩

/-- A collection is filled in place. -/
theorem IsSound.fill {filled : Collection} (sound : IsSound g s)
    (there : s.made n = some (.collection c)) (fills : Fills g s.made n filled) :
    IsSound g (s.fill c filled) := by
  have small : c < s.collections.size := by
    obtain ⟨old, found, -⟩ := sound.collection there
    exact (Array.getElem?_eq_some_iff.mp found).1
  refine ⟨sound.graph_eq, sound.size_eq, sound.atom, sound.parent, ?_, sound.injective, ?_⟩
  · intro m c' there'
    by_cases same : c = c'
    · subst same
      obtain rfl := sound.injective there there'
      exact ⟨filled, by simp [Making.fill, small], fills⟩
    · obtain ⟨old, found, fills'⟩ := sound.collection there'
      exact ⟨old, by rw [Making.fill, Array.getElem?_setIfInBounds, if_neg same, found], fills'⟩
  · intro c' small'
    exact sound.exists_node (by simpa [Making.fill] using small')

/-- There are not more collections than nodes. -/
theorem IsSound.size_le (sound : IsSound g s) : s.collections.size ≤ g.nodes.size := by
  choose node made_eq using fun c : Fin s.collections.size => sound.exists_node c.isLt
  have inside (c) : node c < g.nodes.size := sound.size_eq ▸ inside_of_made (made_eq c)
  have injective : Function.Injective fun c => (⟨node c, inside c⟩ : Fin g.nodes.size) := by
    intro c c' same
    have same : node c = node c' := congrArg Fin.val same
    have collection := (made_eq c).symm.trans (same ▸ made_eq c')
    simpa [Fin.ext_iff] using collection
  simpa using Fintype.card_le_of_injective _ injective

theorem run_fillFrom (fuel k : Nat) (s : Making) :
    (fillFrom (fuel + 1) k).run s = (match s.collections[k]? with
      | none => return ()
      | some (.unfilled node) => do
        let filled ← content node
        modify (·.fill k filled)
        fillFrom fuel (k + 1)
      | some _ => fillFrom fuel (k + 1) : Maker Unit).run s := by
  rw [fillFrom, StateT.run_bind]
  rfl

/-- Whether all collections in front of one are filled. -/
def FilledTo (k : Nat) (s : Making) : Prop :=
  ∀ c n : Nat, s.collections[c]? = some (.unfilled n) → k ≤ c

/-- A collection that is filled already is passed over. -/
theorem FilledTo.next (before : FilledTo k s)
    (isFilled : ∀ n, s.collections[k]? ≠ some (.unfilled n)) : FilledTo (k + 1) s := by
  intro c n unfilled
  refine lt_of_le_of_ne (before c n unfilled) ?_
  rintro rfl
  exact isFilled n unfilled

/-- The collections in front were there, and filled, before the content of the next was made. -/
theorem FilledTo.fill {old filled : Collection} (before : FilledTo k s)
    (there : s.collections[k]? = some old) (advances : Advances g s s')
    (isFilled : ∀ n, filled ≠ .unfilled n) : FilledTo (k + 1) (s'.fill k filled) := by
  intro c n unfilled
  rw [Making.fill, Array.getElem?_setIfInBounds] at unfilled
  split at unfilled
  next same =>
    split at unfilled <;> cases unfilled
    exact absurd rfl (isFilled n)
  next other =>
    by_contra early
    have small : c < s.collections.size := by
      have := (Array.getElem?_eq_some_iff.mp there).1
      omega
    have found := Array.getElem?_eq_getElem small
    have same := (advances.collection_eq found).symm.trans unfilled
    have := before c n (found.trans same)
    omega

/-- All collections from one on are filled, and so are those that are made on the way. -/
theorem ends_fillFrom (sound : IsSound g s) (before : FilledTo k s)
    (enough : g.nodes.size < fuel + k) :
    Ends ((fillFrom fuel k).run s) none fun _ s' => IsSound g s' ∧
      (∀ n v, s.made n = some v → s'.made n = some v) ∧
      ∀ c n : Nat, s'.collections[c]? ≠ some (.unfilled n) := by
  induction fuel generalizing k s with
  | zero =>
    refine ⟨_, _, rfl, sound, fun _ _ => id, fun c n there => ?_⟩
    have := before c n there
    have := (Array.getElem?_eq_some_iff.mp there).1
    have := sound.size_le
    omega
  | succ fuel ih =>
    rw [run_fillFrom]
    split
    next none =>
      refine ⟨_, _, rfl, sound, fun _ _ => id, fun c n there => ?_⟩
      have := before c n there
      have := (Array.getElem?_eq_some_iff.mp there).1
      have := Array.getElem?_eq_none_iff.mp none
      omega
    next node there =>
      obtain ⟨n, made_eq⟩ := sound.exists_node (Array.getElem?_eq_some_iff.mp there).1
      obtain ⟨_, found, fills⟩ := sound.collection made_eq
      cases there.symm.trans found
      cases fills
      refine (ends_content sound (sound.parent made_eq)).bind
        fun filled s₁ ⟨advances, fills, isFilled⟩ => ?_
      change Ends ((fillFrom fuel (k + 1)).run (s₁.fill k filled)) none _
      exact (ih (advances.sound.fill (advances.made_eq made_eq) fills)
        (before.fill there advances isFilled) (by omega)).mono
        fun _ s₂ ⟨sound₂, kept, allFilled⟩ =>
          ⟨sound₂, fun n v there => kept n v (advances.made_eq there), allFilled⟩
    next collection other there =>
      exact ih sound (before.next fun n unfilled =>
        other n (Option.some.inj (there.symm.trans unfilled))) (by omega)

/-- Nothing is made yet. -/
def start (g : Graph) : Making := ⟨g, g.places, .replicate g.nodes.size none, #[]⟩

theorem isSound_start (g : Graph) : IsSound g (start g) := by
  have unmade (n : Nat) : (start g).made n = none := by
    rw [made, start, Array.getD_eq_getD_getElem?, Array.getElem?_replicate]
    split <;> rfl
  refine ⟨rfl, Array.size_replicate, ?_, ?_, ?_, ?_, fun small => absurd small (by simp [start])⟩
  all_goals
    intros
    simp_all

/-- The values of a graph whose root stands for a document are made, and all of them are filled. -/
theorem exists_making {d : Document} (stands : g.Stands n d) :
    ∃ v s, ofGraph g n = .ok (v, s.collections) ∧ IsSound g s ∧ s.made n = some v ∧
      ∀ c n : Nat, s.collections[c]? ≠ some (.unfilled n) := by
  have ends : Ends ((do
      let made ← value n
      fillFrom (g.nodes.size + g.places + 1) 0
      return made : Maker Value).run (start g)) none fun v s => IsSound g s ∧ s.made n = some v ∧
        ∀ c n : Nat, s.collections[c]? ≠ some (.unfilled n) := by
    refine (ends_value (isSound_start g) stands).bind fun v s₁ ⟨advances, there⟩ => ?_
    refine (ends_fillFrom advances.sound (fun _ _ _ => Nat.zero_le _) (by omega)).bind
      fun _ s₂ ⟨sound, kept, allFilled⟩ => Ends.pure ⟨sound, kept n v there, allFilled⟩
  obtain ⟨v, s, run_eq, sound, made, allFilled⟩ := ends
  refine ⟨v, s, ?_, sound, made, allFilled⟩
  exact congrArg
    (fun outcome => outcome >>= fun ended => pure (ended.1, ended.2.collections)) run_eq

end Making

end PrismaEsdl.Yaml
