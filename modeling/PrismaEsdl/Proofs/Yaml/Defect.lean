import PrismaEsdl.Proofs.Yaml.Graph.Unread
import PrismaEsdl.Yaml.Meaning

/-!
What is wrong with a text that has no meaning.

A fault that is not one of the form has a reason in the text (`read_defect`): a token that cannot be
read, a scalar that has no value of the kind it is tagged or written as, or a mapping that stands
for a moment. Nothing else stops the making of values: merging keeps the scalars of the graph as
they were read (`Graph.Keeps`), and so does every step that makes a value (`Making.Makes`).
-/

namespace PrismaEsdl.Yaml

/-! ### Merging -/

namespace Graph

variable {g g' g'' : Graph} {n : Nat}

/-- Whether a node is a mapping. -/
def IsMapping (g : Graph) (n : Nat) : Prop := ∃ entries, (g.node n).form = .mapping entries

/-- Whether the nodes of a graph are those of another one, but for what mappings contain, and for
keys that have become texts. -/
structure Keeps (g g' : Graph) : Prop where
  kind (n : Nat) : (g'.node n).kind = (g.node n).kind ∨ (g'.node n).kind = .text
  scalar {n : Nat} {content : Text} :
    (g'.node n).form = .scalar content → (g.node n).form = .scalar content
  mapping {n : Nat} : g'.IsMapping n ↔ g.IsMapping n

namespace Keeps

theorem refl (g : Graph) : Keeps g g := ⟨fun _ => .inl rfl, id, .rfl⟩

theorem trans (first : Keeps g g') (second : Keeps g' g'') : Keeps g g'' where
  kind n := by
    rcases second.kind n with same | text
    · exact same ▸ first.kind n
    · exact .inr text
  scalar form := first.scalar (second.scalar form)
  mapping := second.mapping.trans first.mapping

/-- A node may become a text, and a mapping may get other entries. -/
theorem change {f : Node → Node}
    (kind : (f (g.node n)).kind = (g.node n).kind ∨ (f (g.node n)).kind = .text)
    (form : (f (g.node n)).form = (g.node n).form ∨
      g.IsMapping n ∧ ∃ entries, (f (g.node n)).form = .mapping entries) :
    Keeps g (g.change n f) := by
  have node_eq (m : Nat) :
      (g.change n f).node m = g.node m ∨ m = n ∧ (g.change n f).node m = f (g.node n) := by
    by_cases same : n = m
    · subst same
      by_cases inside : n < g.nodes.size
      · exact .inr ⟨rfl, by simp [Graph.change, Graph.node, inside, Array.getElem_modify]⟩
      · exact .inl (by simp [Graph.change, Graph.node, inside])
    · exact .inl (by simp [Graph.change, Graph.node, Array.getElem?_modify, same])
  have form_eq (m : Nat) : ((g.change n f).node m).form = (g.node m).form ∨
      g.IsMapping m ∧ (g.change n f).IsMapping m := by
    rcases node_eq m with same | ⟨rfl, changed⟩
    · exact .inl (by rw [same])
    · exact form.imp (fun same => changed ▸ same)
        fun ⟨before, entries, mapping⟩ => ⟨before, entries, changed ▸ mapping⟩
  refine ⟨fun m => ?_, fun {m} _ there => ?_, fun {m} => ?_⟩
  · rcases node_eq m with same | ⟨rfl, changed⟩
    · exact .inl (by rw [same])
    · rwa [changed]
  · rcases form_eq m with same | ⟨-, entries, mapping⟩
    · rwa [same] at there
    · cases mapping.symm.trans there
  · rcases form_eq m with same | ⟨before, after⟩
    · rw [IsMapping, same, IsMapping]
    · exact ⟨fun _ => before, fun _ => after⟩

theorem setForm (isMapping : g.IsMapping n) (entries : List (Nat × Nat)) :
    Keeps g (g.setForm n (.mapping entries)) :=
  change (.inl rfl) (.inr ⟨isMapping, entries, rfl⟩)

theorem nameKeys (entries : List (Nat × Nat)) (g : Graph) : Keeps g (g.nameKeys entries) := by
  unfold Graph.nameKeys
  induction entries generalizing g with
  | nil => exact refl g
  | cons entry rest ih =>
    rw [List.foldl_cons]
    refine trans ?_ (ih _)
    dsimp only
    split
    · exact change (.inr rfl) (.inl rfl)
    · exact refl g

end Keeps

theorem isMapping_of_splitMerge? {found : Nat × List (Nat × Nat)}
    (merges : g.splitMerge? (g.entries n) = some found) : g.IsMapping n := by
  cases form : (g.node n).form with
  | mapping entries => exact ⟨entries, form⟩
  | scalar _ | sequence _ =>
    rw [Graph.entries, form] at merges
    cases merges

theorem ensures_sources (value : Nat) :
    Ensures Fault.IsOfForm (fun _ => True) (g.sources value) := by
  unfold sources
  split
  · trivial
  · split
    · trivial
    · exact .inl rfl
  · exact .inl rfl

/-- Merging keeps the scalars. -/
theorem ensures_mergeWithin (fuel : Nat) :
    ∀ g n, Ensures Fault.IsOfForm (Keeps g) (mergeWithin fuel g n) := by
  induction fuel with
  | zero => exact fun _ _ => .inr rfl
  | succ fuel ih =>
    intro g n
    unfold mergeWithin
    split
    · exact .nameKeys _ g
    · rename_i value others merges
      have isMapping := isMapping_of_splitMerge? merges
      have split := Keeps.setForm isMapping others
      refine (ensures_sources value).bind fun sources _ => ?_
      have taking : ∀ source ∈ sources, ∀ made : List (Nat × Nat) × Graph, Keeps g made.2 →
          Ensures Fault.IsOfForm (fun made => Keeps g made.2) (do
            let g ← mergeWithin fuel made.2 source
            return (g.entries source ++ made.1, g)) :=
        fun source _ made keeps => (ih made.2 source).bind fun g' keeps' => keeps.trans keeps'
      refine (Ensures.foldlM taking _ split).bind fun made keeps => ?_
      refine (ih made.2 n).bind fun g' keeps' => ?_
      have keeps := keeps.trans keeps'
      exact keeps.trans (.setForm (keeps.mapping.mpr isMapping) _)

/-! ### Making values -/

/-- Why the values of the nodes of a graph cannot be made. -/
inductive Defect (g : Graph) : Fault → Prop
  | ofForm {fault : Fault} (isOfForm : Fault.IsOfForm fault) : Defect g fault
  /-- A scalar has no value of the kind of a node: its own, or that of a mapping it stands in. -/
  | scalar {n m : Nat} {content : Text} {fault : Fault}
      (written : (g.node m).form = .scalar content) (stands : m = n ∨ g.IsMapping n)
      (valueless : Scalar.value (g.node n).kind content = .error fault) : Defect g fault
  /-- A mapping stands for a moment. -/
  | mapping {n : Nat} (isMapping : g.IsMapping n) (moment : (g.node n).kind = .moment) :
      Defect g .notAText

theorem ensures_scalarText (fuel : Nat) : ∀ n, Ensures Fault.IsOfForm
    (fun content => ∃ m, (g.node m).form = .scalar content ∧ (m = n ∨ g.IsMapping n))
    (g.scalarText fuel n) := by
  induction fuel with
  | zero => exact fun _ => .inr rfl
  | succ fuel ih =>
    intro n
    unfold scalarText
    split
    · rename_i content form
      exact ⟨n, form, .inl rfl⟩
    · exact .inl rfl
    · rename_i entries form
      split
      · rename_i value _
        exact (ih value).mono fun content ⟨m, written, _⟩ => ⟨m, written, .inr ⟨entries, form⟩⟩
      · exact .inl rfl

end Graph

namespace Making

open PrismaEsdl.Yaml.Graph

variable {g : Graph}

/-- What is kept while values are made, and what may be wrong. -/
abbrev Makes (g : Graph) {α : Type} (x : Maker α) : Prop :=
  Guards (Defect g) (fun s => Keeps g s.graph) x

/-- The kind of a node whose value may not exist is that of the graph as it was read. -/
theorem ensures_scalarValue {g' : Graph} (keeps : Keeps g g') {n m : Nat} {content : Text}
    (written : (g'.node m).form = .scalar content) (stands : m = n ∨ g'.IsMapping n) :
    Ensures (Defect g) (fun _ => True) (Scalar.value (g'.node n).kind content) := by
  rcases keeps.kind n with same | text
  · rw [same]
    cases valued : Scalar.value (g.node n).kind content with
    | ok _ => trivial
    | error _ => exact .scalar (keeps.scalar written) (stands.imp_right keeps.mapping.mp) valued
  · rw [text]
    trivial

theorem ensures_atom {g' : Graph} (keeps : Keeps g g') (n : Nat) :
    Ensures (Defect g) (fun _ => True) (atom g' n) := by
  have text := (ensures_scalarText (g := g') (g'.nodes.size + 1) n).blame
    fun _ => Defect.ofForm (g := g)
  unfold atom
  split
  rename_i kind form node_eq
  have kind_eq : (g'.node n).kind = kind := by rw [node_eq]
  have form_eq : (g'.node n).form = form := by rw [node_eq]
  refine text.bind fun content ⟨m, written, stands⟩ => ?_
  have valued := ensures_scalarValue keeps written stands
  rw [kind_eq] at valued
  have valuedAtom : Ensures (Defect g) (fun _ => True) (do
      let value ← Scalar.value kind content
      let isShared := kind = .float && Scalar.isNotANumberWord content
      return ({ value, origin := if isShared then none else some n } : Atom)) :=
    valued.bind fun _ _ => trivial
  dsimp only
  cases form with
  | mapping entries =>
    by_cases moment : kind = .moment
    · have kind_eq : (g.node n).kind = .moment := by
        rcases keeps.kind n with same | text
        · exact same.symm.trans (kind_eq.trans moment)
        · cases moment.symm.trans (kind_eq.symm.trans text)
      rw [if_pos (by simp [moment])]
      exact .mapping (keeps.mapping.mp ⟨entries, form_eq⟩) kind_eq
    · rw [if_neg (by simp [moment])]
      exact valuedAtom
  | scalar _ | sequence _ =>
    rw [Bool.and_false, if_neg (by decide)]
    exact valuedAtom

theorem makes_newCollection (collection : Collection) : Makes g (newCollection collection) :=
  .modifyGet fun _ keeps => keeps

theorem makes_value (n : Nat) : Makes g (value n) := by
  unfold value
  refine .get_bind fun s keeps => ?_
  split
  · exact .pure _
  · have stored (v : Value) : Makes g (do
        modify fun s => { s with values := s.values.setIfInBounds n (some v) }
        return v) := .bind (.modify fun _ keeps => keeps) fun _ => .pure v
    dsimp only
    split
    · exact .bind (makes_newCollection _) stored
    · exact .bind (makes_newCollection _) stored
    · exact .bind (makes_newCollection _) stored
    · exact .bind (makes_newCollection _) stored
    · exact .throw (.ofForm (.inl rfl))
    · exact .throw (.ofForm (.inl rfl))
    · exact .throw (.ofForm (.inl rfl))
    · exact .bind (.map (.lift (ensures_atom keeps n))) stored

theorem makes_key (n : Nat) : Makes g (key n) := by
  unfold key
  refine .bind (makes_value n) fun v => ?_
  cases v with
  | atom a => exact .pure a
  | collection _ => exact .throw (.ofForm (.inl rfl))

theorem makes_entries (n : Nat) : Makes g (entries n) := by
  unfold entries
  refine .get_bind fun s keeps => ?_
  refine .lift_bind ((ensures_mergeWithin _ s.graph n).blame fun _ => .ofForm) fun g' keeps' => ?_
  refine .bind (.set (keeps.trans keeps')) fun _ => ?_
  refine .foldlM (fun made entry => ?_) _ _
  exact .bind (makes_key _) fun _ => .bind (makes_value _) fun _ => .pure _

theorem makes_pair (n : Nat) : Makes g (pair n) := by
  unfold pair
  refine .get_bind fun s _ => ?_
  split
  · exact .bind (makes_value _) fun _ => .bind (makes_value _) fun _ => makes_newCollection _
  · exact .throw (.ofForm (.inl rfl))

theorem makes_content (n : Nat) : Makes g (content n) := by
  unfold content
  refine .get_bind fun s _ => ?_
  dsimp only
  split
  · exact .map (.mapM makes_value _)
  · exact .map (.mapM makes_pair _)
  · exact .map (makes_entries n)
  · exact .bind (makes_entries n) fun _ => .pure _
  · exact .throw (.ofForm (.inl rfl))

theorem makes_fillFrom (fuel : Nat) : ∀ k, Makes g (fillFrom fuel k) := by
  induction fuel with
  | zero => exact fun _ => .pure ()
  | succ fuel ih =>
    intro k
    unfold fillFrom
    refine .get_bind fun s _ => ?_
    split
    · exact .pure ()
    · exact .bind (makes_content _) fun _ => .bind (.modify fun _ keeps => keeps) fun _ => ih _
    · exact ih _

/-- Whatever stops the making of values is wrong with the graph as it was read. -/
theorem ensures_ofGraph (root : Nat) : Ensures (Defect g) (fun _ => True) (ofGraph g root) := by
  have makes : Makes g (do
      let made ← value root
      fillFrom (g.nodes.size + g.places + 1) 0
      return made) :=
    .bind (makes_value root) fun made => .bind (makes_fillFrom _ _) fun _ => .pure made
  exact (makes _ (.refl g)).bind fun _ _ => trivial

end Making

/-! ### Texts -/

/-- Why a text that comes in has no meaning, where no more than a limit of collections may stand
around a node. -/
inductive Defect (limit : Nat) (stream : Stream) : Fault → Prop
  /-- It does not follow the grammar, or nodes contain each other too deeply. -/
  | ofForm {fault : Fault} (isOfForm : fault.IsOfForm) : Defect limit stream fault
  /-- A token cannot be read. -/
  | token {fault : Fault} (broken : .broken fault ∈ Token.ofStream stream) :
    Defect limit stream fault
  /-- The values of its nodes cannot be made. -/
  | node {g : Graph} {root : Nat} {fault : Fault}
    (nodes : Graph.ofStream? limit stream = .ok (some (g, root))) (defect : g.Defect fault) :
    Defect limit stream fault

/-- A text that has no meaning has a defect. -/
theorem read_defect {limit : Nat} {stream : Stream} {fault : Fault}
    (fails : read limit stream = .error fault) : Defect limit stream fault := by
  have ensures : Ensures (Defect limit stream) (fun _ => True) (read limit stream) := by
    unfold read
    have nodes : Ensures (Defect limit stream) (fun _ => True)
        (Graph.ofTokens? limit (Token.ofStream stream)) :=
      (Graph.ensures_ofTokens? limit (Token.ofStream stream)).blame
        fun _ unread => unread.elim .ofForm .token
    cases found : Graph.ofStream? limit stream with
    | error fault =>
      rw [show Graph.ofTokens? limit (Token.ofStream stream) = .error fault from found] at nodes
      exact nodes
    | ok document =>
      rcases document with _ | ⟨g, root⟩
      · trivial
      · exact ((Making.ensures_ofGraph root).blame fun _ => .node found).bind fun _ _ => trivial
  rw [fails] at ensures
  exact ensures

end PrismaEsdl.Yaml
