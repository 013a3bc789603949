import PrismaEsdl.Proofs.Document.Json
import PrismaEsdl.Proofs.Json.Writing

/-!
What becomes of a JSON document where its text is read as YAML.

Nothing changes in a document whose texts have no character beyond 16 bits and whose fractional
numbers all have a point in their text (`reread_eq_self_iff`). Otherwise such characters become two
lone surrogates each, and such numbers become texts.
-/

namespace PrismaEsdl

namespace Document

mutual

/-- The document that the text of a JSON document stands for. -/
def reread : Document → Document
  | float x =>
    if .char '.' ∈ x.toText .plain then float x else text (x.toText .plain)
  | text t => text t.units
  | list items => list (rereadItems items)
  | object entries => ofEntries (rereadEntries entries)
  | document => document

def rereadItems : List Document → List Document
  | [] => []
  | item :: rest => item.reread :: rereadItems rest

def rereadEntries : List (Document × Document) → List (Document × Document)
  | [] => []
  | (key, content) :: rest => (key.reread, content.reread) :: rereadEntries rest

end

theorem rereadItems_eq_map (items : List Document) : rereadItems items = items.map reread := by
  induction items with
  | nil => rfl
  | cons item items ih => rw [rereadItems, ih, List.map_cons]

theorem rereadEntries_eq_map (entries : List (Document × Document)) :
    rereadEntries entries = entries.map fun entry => (entry.1.reread, entry.2.reread) := by
  induction entries with
  | nil => rfl
  | cons entry entries ih => rw [rereadEntries, ih, List.map_cons]

mutual

/-- Whether the text of a JSON document stands for the document itself. -/
def IsPlain : Document → Prop
  | float x => .char '.' ∈ x.toText .plain
  | text t => ∀ p ∈ t, p.value < 0x10000
  | list items => ArePlain items
  | object entries => ArePlainEntries entries
  | _ => True

def ArePlain : List Document → Prop
  | [] => True
  | item :: rest => item.IsPlain ∧ ArePlain rest

def ArePlainEntries : List (Document × Document) → Prop
  | [] => True
  | (key, content) :: rest => key.IsPlain ∧ content.IsPlain ∧ ArePlainEntries rest

end

theorem arePlain_iff {items : List Document} : ArePlain items ↔ ∀ item ∈ items, item.IsPlain := by
  induction items with
  | nil => simp [ArePlain]
  | cons item items ih => simp [ArePlain, ih]

theorem arePlainEntries_iff {entries : List (Document × Document)} :
    ArePlainEntries entries ↔ ∀ entry ∈ entries, entry.1.IsPlain ∧ entry.2.IsPlain := by
  induction entries with
  | nil => simp [ArePlainEntries]
  | cons entry entries ih => simp [ArePlainEntries, ih, and_assoc]

end Document

/-! ### Texts -/

theorem Text.units_eq_self_iff {t : Text} : t.units = t ↔ ∀ p ∈ t, p.value < 0x10000 := by
  constructor
  · intro same p member
    rw [← same] at member
    obtain ⟨q, -, unit⟩ := List.mem_flatMap.mp member
    exact CodePoint.value_lt_of_mem_units unit
  · intro small
    induction t with
    | nil => rfl
    | cons p t ih =>
      rw [Text.units, List.flatMap_cons, CodePoint.units, if_pos (small p List.mem_cons_self)]
      exact congrArg _ (ih fun q member => small q (List.mem_cons_of_mem _ member))

namespace Document

/-! ### Objects -/

section

variable {κ α : Type} {same : κ → κ → Bool}

/-- Putting in an entry brings no other key than its own. -/
theorem key_of_mem_putEntry {key : κ} {content : α} {entries : List (κ × α)} {entry : κ × α}
    (member : entry ∈ putEntry same key content entries) :
    entry.1 = key ∨ ∃ known ∈ entries, known.1 = entry.1 := by
  induction entries with
  | nil =>
    rw [putEntry, List.mem_singleton] at member
    exact Or.inl (congrArg Prod.fst member)
  | cons first entries ih =>
    obtain ⟨known, old⟩ := first
    rw [putEntry] at member
    split at member
    · rcases List.mem_cons.mp member with rfl | later
      · exact Or.inr ⟨_, List.mem_cons_self, rfl⟩
      · exact Or.inr ⟨_, List.mem_cons_of_mem _ later, rfl⟩
    · rcases List.mem_cons.mp member with rfl | later
      · exact Or.inr ⟨_, List.mem_cons_self, rfl⟩
      · exact (ih later).imp_right fun ⟨found, there, key⟩ =>
          ⟨found, List.mem_cons_of_mem _ there, key⟩

/-- A key that is not there is put at the end. -/
theorem putEntry_eq_append {key : κ} {content : α} {entries : List (κ × α)}
    (absent : ∀ known ∈ entries, same known.1 key = false) :
    putEntry same key content entries = entries ++ [(key, content)] := by
  induction entries with
  | nil => rfl
  | cons first entries ih =>
    have other : same first.1 key = false := absent first List.mem_cons_self
    rw [putEntry, if_neg (by simp [other]), ih fun known member =>
      absent known (List.mem_cons_of_mem _ member), List.cons_append]

end

/-- The entries after some entries were put in one after the other. -/
def putEntries (made entries : List (Document × Document)) : List (Document × Document) :=
  entries.foldl (fun made entry => putEntry sameKey entry.1 entry.2 made) made

theorem ofEntries_eq (entries : List (Document × Document)) :
    ofEntries entries = .object (putEntries [] entries) := rfl

theorem key_of_mem_putEntries {made entries : List (Document × Document)}
    {entry : Document × Document} (member : entry ∈ putEntries made entries) :
    ∃ known ∈ made ++ entries, known.1 = entry.1 := by
  induction entries generalizing made with
  | nil => exact ⟨entry, List.mem_append_left _ member, rfl⟩
  | cons first entries ih =>
    obtain ⟨known, there, key⟩ := ih member
    rcases List.mem_append.mp there with early | late
    · rcases key_of_mem_putEntry early with own | ⟨found, before, key'⟩
      · exact ⟨first, by simp, own ▸ key⟩
      · exact ⟨found, List.mem_append_left _ before, key'.trans key⟩
    · exact ⟨known, by simp [late], key⟩

/-- Entries with distinct texts as keys stay as they are. -/
theorem putEntries_eq_append {made entries : List (Document × Document)}
    (distinct : ((made ++ entries).map Prod.fst).Nodup)
    (texts : ∀ entry ∈ made ++ entries, ∃ t, entry.1 = .text t) :
    putEntries made entries = made ++ entries := by
  induction entries generalizing made with
  | nil => simp [putEntries]
  | cons first entries ih =>
    have absent : ∀ known ∈ made, sameKey known.1 first.1 = false := by
      intro known member
      obtain ⟨t, key⟩ := texts known (List.mem_append_left _ member)
      obtain ⟨u, key'⟩ := texts first (by simp)
      have apart : known.1 ≠ first.1 := by
        rw [List.map_append, List.nodup_append] at distinct
        exact distinct.2.2 _ (List.mem_map_of_mem member) _ (by simp)
      rw [key, key'] at apart ⊢
      exact beq_eq_false_iff_ne.mpr fun equal => apart (congrArg text equal)
    have step : putEntries made (first :: entries) = putEntries (made ++ [first]) entries := by
      rw [putEntries, List.foldl_cons, putEntry_eq_append absent]
      rfl
    rw [step, ih (by simpa using distinct) (by simpa using texts), List.append_assoc,
      List.singleton_append]

/-! ### Plain documents -/

variable {number : Binary64 → Prop}

theorem map_eq_self_iff {α : Type} {f : α → α} {items : List α} :
    items.map f = items ↔ ∀ item ∈ items, f item = item := by
  conv_lhs => rhs; rw [← List.map_id items]
  exact List.map_inj_left

/-- Objects that have distinct texts as keys are not changed where their keys are. -/
theorem ofEntries_rereadEntries {entries : List (Document × Document)}
    (distinct : (entries.map Prod.fst).Nodup)
    (keys : ∀ entry ∈ entries, ∃ name, entry.1 = .text name)
    (same : ∀ entry ∈ entries, entry.1.reread = entry.1) :
    ofEntries (rereadEntries entries) = .object (rereadEntries entries) := by
  have keys_eq : (rereadEntries entries).map Prod.fst = entries.map Prod.fst := by
    rw [rereadEntries_eq_map, List.map_map]
    exact List.map_congr_left same
  rw [ofEntries_eq, putEntries_eq_append (by rwa [List.nil_append, keys_eq]), List.nil_append]
  intro entry member
  rw [List.nil_append, rereadEntries_eq_map] at member
  obtain ⟨source, there, rfl⟩ := List.mem_map.mp member
  obtain ⟨name, key⟩ := keys source there
  exact ⟨name, (same source there).trans key⟩

/-- A key that is there after reading is one of 16-bit units. -/
theorem plain_of_reread_eq {entries : List (Document × Document)}
    (keys : ∀ entry ∈ entries, ∃ name, entry.1 = .text name)
    (same : ofEntries (rereadEntries entries) = .object entries) :
    ∀ entry ∈ entries, entry.1.IsPlain := by
  intro entry member
  rw [ofEntries_eq, object.injEq] at same
  rw [← same] at member
  obtain ⟨known, there, key⟩ := key_of_mem_putEntries member
  rw [List.nil_append, rereadEntries_eq_map] at there
  obtain ⟨source, listed, rfl⟩ := List.mem_map.mp there
  obtain ⟨name, named⟩ := keys source listed
  rw [← key, named]
  intro p unit
  obtain ⟨q, -, unit⟩ := List.mem_flatMap.mp unit
  exact CodePoint.value_lt_of_mem_units unit

/-- Reading the text of a JSON document changes nothing exactly if the document is plain. -/
theorem reread_eq_self_iff {document : Document} (json : document.IsJson number) :
    document.reread = document ↔ document.IsPlain := by
  induction json with
  | null | bool _ | int _ => simp [reread, IsPlain]
  | @float x fits =>
    rw [reread, IsPlain]
    split
    next point => simp [point]
    next pointless => simp [pointless]
  | text t => rw [reread, IsPlain, text.injEq, Text.units_eq_self_iff]
  | list parts ih =>
    rw [reread, IsPlain, rereadItems_eq_map, arePlain_iff, list.injEq, map_eq_self_iff]
    exact forall₂_congr ih
  | @object entries distinct keys contents ih =>
    have key_iff : ∀ entry ∈ entries, entry.1.reread = entry.1 ↔ entry.1.IsPlain := by
      intro entry member
      obtain ⟨name, key⟩ := keys entry member
      rw [key, reread, IsPlain, text.injEq, Text.units_eq_self_iff]
    rw [reread, IsPlain, arePlainEntries_iff]
    constructor
    · intro same
      have plain := plain_of_reread_eq keys same
      rw [ofEntries_rereadEntries distinct keys fun entry member =>
        (key_iff entry member).mpr (plain entry member), object.injEq, rereadEntries_eq_map,
        map_eq_self_iff] at same
      exact fun entry member => ⟨plain entry member,
        (ih entry member).mp (congrArg Prod.snd (same entry member))⟩
    · intro plain
      rw [ofEntries_rereadEntries distinct keys fun entry member =>
        (key_iff entry member).mpr (plain entry member).1, object.injEq, rereadEntries_eq_map,
        map_eq_self_iff]
      exact fun entry member => Prod.ext ((key_iff entry member).mpr (plain entry member).1)
        ((ih entry member).mpr (plain entry member).2)

end Document

end PrismaEsdl
