import PrismaEsdl.Proofs.Yaml.Making
import PrismaEsdl.Yaml.Meaning

/-!
The document of a graph whose root stands for a document.

Where no node contains itself, the collections inside of a collection belong to nodes with greater
numbers. So there are always enough steps to get to the bottom, and what is found is the document
that the root stands for (`ofGraph_eq`).
-/

namespace PrismaEsdl.Yaml.Meaning

open Making

variable {g : Graph} {s : Making} {least n c fuel : Nat} {v : Value} {d : Document}

/-! ### Values and documents -/

/-- Whether a value is that of a node, from a number on, that stands for a document. -/
def Means (g : Graph) (s : Making) (least : Nat) (v : Value) (d : Document) : Prop :=
  ∃ n, least ≤ n ∧ s.made n = some v ∧ g.Stands n d

/-- Whether an atom was made from a text. -/
def IsKey (g : Graph) (a : Atom) (key : Document) : Prop :=
  ∃ (n : Nat) (t : Text), g.IsText n t ∧ a = ⟨.text t, some n⟩ ∧ key = .text t

theorem isKey_of_isAtom {a : Atom} {t : Text} (isAtom : IsAtom g n a) (isText : g.IsText n t) :
    IsKey g a (.text t) := by
  obtain ⟨kind, content, value, node_eq, value_eq, rfl⟩ := isAtom
  obtain ⟨rfl, same⟩ := Node.mk.inj (node_eq.symm.trans isText.node_eq)
  obtain rfl := Form.scalar.inj same
  cases value_eq
  exact ⟨n, _, isText, rfl, rfl⟩

/-- Atoms made from texts are the same key if the texts are the same. -/
theorem isSameKey_eq {a b : Atom} {key other : Document} (isKey : IsKey g a key)
    (isKey' : IsKey g b other) : Atom.isSameKey a b = key.sameKey other := by
  obtain ⟨m, t, isText, rfl, rfl⟩ := isKey
  obtain ⟨n, u, isText', rfl, rfl⟩ := isKey'
  by_cases same : m = n
  · subst same
    obtain rfl := isText.text_eq isText'
    simp [Atom.isSameKey, Document.sameKey]
  · simp [Atom.isSameKey, same]

/-- Whether an entry is a text and a value with a meaning. -/
def MeansEntry (g : Graph) (s : Making) (least : Nat) (entry : Atom × Value)
    (entry' : Document × Document) : Prop :=
  IsKey g entry.1 entry'.1 ∧ Means g s least entry.2 entry'.2

theorem forall₂_putEntry {entry : Atom × Value} {entry' : Document × Document}
    {entries : List (Atom × Value)} {entries' : List (Document × Document)}
    (known : List.Forall₂ (MeansEntry g s least) entries entries')
    (means : MeansEntry g s least entry entry') :
    List.Forall₂ (MeansEntry g s least)
      (Document.putEntry Atom.isSameKey entry.1 entry.2 entries)
      (Document.putEntry Document.sameKey entry'.1 entry'.2 entries') := by
  induction known with
  | nil => exact .cons means .nil
  | @cons first first' entries entries' head tail ih =>
    rw [Document.putEntry, Document.putEntry, isSameKey_eq head.1 means.1]
    split
    · exact .cons ⟨head.1, means.2⟩ tail
    · exact .cons head ih

theorem forall₂_putAtoms {entries known : List (Atom × Value)}
    {entries' known' : List (Document × Document)}
    (means : List.Forall₂ (MeansEntry g s least) entries entries')
    (before : List.Forall₂ (MeansEntry g s least) known known') :
    List.Forall₂ (MeansEntry g s least) (putAtoms known entries)
      (entries'.foldl (fun known entry => Document.putEntry Document.sameKey entry.1 entry.2 known)
        known') := by
  induction means generalizing known known' with
  | nil => exact before
  | cons head _ ih => exact ih (forall₂_putEntry before head)

theorem Means.eq_value {a : Atom} (sound : IsSound g s) (means : Means g s least (.atom a) d) :
    d = a.value := by
  obtain ⟨n, -, made_eq, stands⟩ := means
  obtain ⟨kind, content, value, node_eq, value_eq, rfl⟩ := sound.atom made_eq
  exact stands.document_eq (.scalar stands.inside node_eq value_eq)

/-- The values of the nodes in a sequence mean the items of the document it stands for. -/
theorem exists_items {parts : List (Nat × Value)}
    (node_eq : g.node n = ⟨.sequence, .sequence (parts.map Prod.fst)⟩)
    (items : ∀ part ∈ parts, s.made part.1 = some part.2) (stands : g.Stands n d) :
    ∃ meant, d = .list meant ∧ List.Forall₂ (Means g s (n + 1)) (parts.map Prod.snd) meant := by
  cases stands with
  | scalar _ node_eq' _ | mapping _ node_eq' _ _ _ => cases node_eq.symm.trans node_eq'
  | sequence _ node_eq' later items' =>
    have same := Form.sequence.inj (congrArg Node.form (node_eq.symm.trans node_eq'))
    exact ⟨_, rfl, Graph.forall₂_of_map_fst_eq same fun child v e left right =>
      ⟨child, later _ right, items _ left, items' _ right⟩⟩

/-- The values of the nodes in a mapping mean the entries of the document it stands for. -/
theorem exists_entries (sound : IsSound g s) {parts : List ((Nat × Nat) × (Atom × Value))}
    (node_eq : g.node n = ⟨.mapping, .mapping (parts.map Prod.fst)⟩)
    (keys : ∀ part ∈ parts, s.made part.1.1 = some (.atom part.2.1))
    (contents : ∀ part ∈ parts, s.made part.1.2 = some part.2.2) (stands : g.Stands n d) :
    ∃ meant, d = .ofEntries meant ∧
      List.Forall₂ (MeansEntry g s (n + 1)) (parts.map Prod.snd) meant := by
  cases stands with
  | scalar _ node_eq' _ | sequence _ node_eq' _ _ => cases node_eq.symm.trans node_eq'
  | mapping _ node_eq' later keys' contents' =>
    have same := Form.mapping.inj (congrArg Node.form (node_eq.symm.trans node_eq'))
    refine ⟨_, rfl, ?_⟩
    rw [Document.fieldEntries, List.forall₂_map_right_iff]
    exact Graph.forall₂_of_map_fst_eq same fun child entry field left right =>
      ⟨isKey_of_isAtom (sound.atom (keys _ left)) (keys' _ right),
        child.2, (later _ right).2, contents _ left, contents' _ right⟩

/-! ### Steps -/

open Classical in
/-- The collections that belong to nodes from a number on. -/
noncomputable def later (s : Making) (least : Nat) : Finset Nat :=
  (Finset.range s.collections.size).filter fun c => ∃ n, least ≤ n ∧ s.made n = some (.collection c)

theorem mem_later {c : Nat} : c ∈ later s least ↔
    c < s.collections.size ∧ ∃ n, least ≤ n ∧ s.made n = some (.collection c) := by
  classical
  rw [later, Finset.mem_filter, Finset.mem_range]

theorem later_subset {greater : Nat} (le : least ≤ greater) : later s greater ⊆ later s least := by
  intro c member
  rw [mem_later] at member ⊢
  obtain ⟨small, n, le', made_eq⟩ := member
  exact ⟨small, n, le.trans le', made_eq⟩

/-- Fewer collections belong to nodes behind a collection than from it on. -/
theorem card_later_lt (sound : IsSound g s) (made_eq : s.made n = some (.collection c)) :
    (later s (n + 1)).card < (later s n).card := by
  obtain ⟨filled, found, -⟩ := sound.collection made_eq
  refine Finset.card_lt_card ((Finset.ssubset_iff_of_subset (later_subset n.le_succ)).mpr
    ⟨c, ?_, ?_⟩)
  · exact mem_later.mpr ⟨(Array.getElem?_eq_some_iff.mp found).1, n, le_rfl, made_eq⟩
  · intro member
    obtain ⟨-, m, behind, same⟩ := mem_later.mp member
    have := sound.injective made_eq same
    omega

/-- Whether the documents that are kept are those of their collections. -/
def IsKept (g : Graph) (s : Making) (known : Array (Option Document)) : Prop :=
  ∀ c n d, known.getD c none = some d → s.made n = some (.collection c) → g.Stands n d

section

variable {all : Array Collection} {known : Array (Option Document)}

theorem run_document_known (there : known.getD c none = some d) :
    (document all [] (fuel + 1) [] (.collection c)).run known = (d, known) := by
  rw [document, if_neg (by simp), StateT.run_bind]
  rw [StateT.run_get, pure_bind]
  dsimp only
  rw [there]
  rfl

theorem run_document_list {items : List Value} (new : known.getD c none = none)
    (found : all[c]? = some (.list items)) :
    (document all [] (fuel + 1) [] (.collection c)).run known = (do
      let made ← Document.list <$> items.mapM (document all [] fuel [])
      modify (·.setIfInBounds c (some made))
      return made : Reader Document).run known := by
  rw [document, if_neg (by simp), StateT.run_bind, Array.getD_eq_getD_getElem?, found]
  rw [StateT.run_get, pure_bind]
  dsimp only
  rw [new]
  rfl

theorem run_document_object {entries : List (Atom × Value)} (new : known.getD c none = none)
    (found : all[c]? = some (.object entries)) :
    (document all [] (fuel + 1) [] (.collection c)).run known = (do
      let made ← Document.object <$> entries.mapM fun (key, content) => do
        return (key.value, ← document all [] fuel [] content)
      modify (·.setIfInBounds c (some made))
      return made : Reader Document).run known := by
  rw [document, if_neg (by simp), StateT.run_bind, Array.getD_eq_getD_getElem?, found]
  rw [StateT.run_get, pure_bind]
  dsimp only
  rw [new]
  rfl

end

/-! ### Documents -/

variable {known : Array (Option Document)}

theorem IsKept.set (kept : IsKept g s known) (sound : IsSound g s)
    (made_eq : s.made n = some (.collection c)) (stands : g.Stands n d) :
    IsKept g s (known.setIfInBounds c (some d)) := by
  intro c' m e there made_eq'
  rw [Array.getD_eq_getD_getElem?, Array.getElem?_setIfInBounds] at there
  split at there
  next same =>
    split at there
    · cases there
      exact sound.injective made_eq (same ▸ made_eq') ▸ stands
    · cases there
  next => exact kept c' m e (Array.getD_eq_getD_getElem? ▸ there) made_eq'

theorem run_mapM {α β : Type} {f : α → Reader β} {R : α → β → Prop}
    (run : ∀ a b known, R a b → IsKept g s known →
      ∃ known', (f a).run known = (b, known') ∧ IsKept g s known')
    {l : List α} {m : List β} (related : List.Forall₂ R l m) (kept : IsKept g s known) :
    ∃ known', (l.mapM f).run known = (m, known') ∧ IsKept g s known' := by
  induction related generalizing known with
  | nil => exact ⟨known, rfl, kept⟩
  | cons head tail ih =>
    obtain ⟨known₁, run_eq₁, kept₁⟩ := run _ _ known head kept
    obtain ⟨known₂, run_eq₂, kept₂⟩ := ih kept₁
    refine ⟨known₂, ?_, kept₂⟩
    rw [List.mapM_cons, StateT.run_bind, run_eq₁]
    change StateT.run (_ >>= _) known₁ = _
    rw [StateT.run_bind, run_eq₂]
    rfl

/-- What is found for a value is what it means. -/
theorem run_document (sound : IsSound g s)
    (allFilled : ∀ c n : Nat, s.collections[c]? ≠ some (.unfilled n))
    (means : Means g s least v d) (enough : (later s least).card < fuel) (kept : IsKept g s known) :
    ∃ known', (document s.collections [] fuel [] v).run known = (d, known') ∧
      IsKept g s known' := by
  induction fuel generalizing least v d known with
  | zero => exact absurd enough (Nat.not_lt_zero _)
  | succ fuel ih =>
    cases v with
    | atom a =>
      obtain rfl := means.eq_value sound
      exact ⟨known, rfl, kept⟩
    | collection c =>
      obtain ⟨n, le, made_eq, stands⟩ := means
      cases new : known.getD c none with
      | some e =>
        obtain rfl := stands.document_eq (kept c n e new made_eq)
        exact ⟨known, run_document_known new, kept⟩
      | none =>
        have enough' : (later s (n + 1)).card < fuel := by
          have := card_later_lt sound made_eq
          have := Finset.card_le_card (later_subset le : later s n ⊆ later s least)
          omega
        obtain ⟨filled, found, fills⟩ := sound.collection made_eq
        cases fills with
        | unfilled => exact absurd found (allFilled c n)
        | list node_eq items =>
          obtain ⟨meant, rfl, related⟩ := exists_items node_eq items stands
          obtain ⟨known₁, run_eq, kept₁⟩ := run_mapM (fun v e known means => ih means enough')
            related kept
          refine ⟨_, ?_, kept₁.set sound made_eq stands⟩
          rw [run_document_list new found, StateT.run_bind, StateT.run_map, run_eq]
          rfl
        | object node_eq keys contents =>
          obtain ⟨meant, rfl, related⟩ := exists_entries sound node_eq keys contents stands
          have entry_run (entry entry' known) (means : MeansEntry g s (n + 1) entry entry')
              (kept : IsKept g s known) : ∃ known', (do
                return (entry.1.value, ← document s.collections [] fuel [] entry.2) :
                Reader (Document × Document)).run known = (entry', known') ∧
              IsKept g s known' := by
            obtain ⟨⟨m, t, -, key, key'⟩, content⟩ := means
            obtain ⟨known₁, run_eq, kept₁⟩ := ih content enough' kept
            refine ⟨known₁, ?_, kept₁⟩
            rw [StateT.run_bind, run_eq]
            exact congrArg (·, known₁) (Prod.ext (by rw [key, key']) rfl)
          obtain ⟨known₁, run_eq, kept₁⟩ :=
            run_mapM entry_run (forall₂_putAtoms related .nil) kept
          refine ⟨_, ?_, kept₁.set sound made_eq stands⟩
          rw [run_document_object new found, StateT.run_bind, StateT.run_map, run_eq]
          rfl

/-- A graph whose root stands for a document has the meaning of the document. -/
theorem ofGraph_eq (stands : g.Stands n d) (acyclic : g.cyclic = false) : ofGraph g n = .ok d := by
  obtain ⟨v, s, making, sound, made_eq, allFilled⟩ := exists_making stands
  have enough : (later s 0).card < s.collections.size + 1 := by
    refine Nat.lt_succ_of_le <|
      (Finset.card_le_card fun c member => ?_).trans_eq (Finset.card_range _)
    exact Finset.mem_range.mpr (mem_later.mp member).1
  have kept : IsKept g s (.replicate s.collections.size none) := by
    intro c n d there
    rw [Array.getD_eq_getD_getElem?, Array.getElem?_replicate] at there
    split at there <;> cases there
  obtain ⟨known, run_eq, -⟩ :=
    run_document sound allFilled ⟨n, Nat.zero_le n, made_eq, stands⟩ enough kept
  unfold ofGraph
  rw [making, acyclic]
  exact congrArg (fun found => Except.ok found.1) run_eq

end PrismaEsdl.Yaml.Meaning
