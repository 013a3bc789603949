/-!
Tables: finite maps that remember the order in which their keys were first inserted.

Inserting under a key that is there replaces the content and leaves the key where it is; a new key
goes to the end. `keys_insert` states the order, `get?_insert` the content.
-/

namespace PrismaEsdl

/-- A finite map with its keys in order of first insertion. -/
structure Table (κ : Type u) (α : Type v) where
  entries : List (κ × α)
  distinct : (entries.map Prod.fst).Nodup

namespace Table

variable {κ : Type u} {α : Type v} {β : Type w}

def empty : Table κ α := ⟨[], List.nodup_nil⟩

instance : EmptyCollection (Table κ α) := ⟨empty⟩

instance : Inhabited (Table κ α) := ⟨∅⟩

def keys (table : Table κ α) : List κ := table.entries.map Prod.fst

def contents (table : Table κ α) : List α := table.entries.map Prod.snd

def size (table : Table κ α) : Nat := table.entries.length

def isEmpty (table : Table κ α) : Bool := table.entries.isEmpty

theorem nodup_append_key {entries : List (κ × α)} {key : κ} (content : α)
    (distinct : (entries.map Prod.fst).Nodup) (fresh : key ∉ entries.map Prod.fst) :
    ((entries ++ [(key, content)]).map Prod.fst).Nodup := by
  rw [List.map_append, List.nodup_append]
  refine ⟨distinct, by simp, ?_⟩
  intro other member last isKey
  simp only [List.map_cons, List.map_nil, List.mem_singleton] at isKey
  subst isKey
  exact fun same => fresh (same ▸ member)

section Lookup

variable [DecidableEq κ]

def contains (table : Table κ α) (key : κ) : Bool := decide (key ∈ table.keys)

/-- The content under a key. -/
def get? (table : Table κ α) (key : κ) : Option α :=
  (table.entries.find? (·.1 = key)).map Prod.snd

/-- Replaces the content under a key. -/
def replace (entries : List (κ × α)) (key : κ) (content : α) : List (κ × α) :=
  entries.map fun entry => if entry.1 = key then (key, content) else entry

theorem keys_replace (entries : List (κ × α)) (key : κ) (content : α) :
    (replace entries key content).map Prod.fst = entries.map Prod.fst := by
  simp only [replace, List.map_map]
  apply List.map_congr_left
  intro entry _
  by_cases same : entry.1 = key <;> simp [same]

/-- Puts a content under a key: in place if the key is there, else at the end. -/
def insert (table : Table κ α) (key : κ) (content : α) : Table κ α :=
  if known : key ∈ table.keys then
    ⟨replace table.entries key content, by rw [keys_replace]; exact table.distinct⟩
  else
    ⟨table.entries ++ [(key, content)], nodup_append_key content table.distinct known⟩

/-- Puts a content under a key unless the key is there. -/
def insertNew (table : Table κ α) (key : κ) (content : α) : Table κ α :=
  if table.contains key then table else table.insert key content

/-- Inserts pairs one after the other. -/
def insertMany (table : Table κ α) (pairs : List (κ × α)) : Table κ α :=
  pairs.foldl (fun table pair => table.insert pair.1 pair.2) table

/-- The table of a list of pairs: first positions, last contents. -/
def ofList (pairs : List (κ × α)) : Table κ α := insertMany ∅ pairs

theorem keys_insert (table : Table κ α) (key : κ) (content : α) :
    (table.insert key content).keys =
      if key ∈ table.keys then table.keys else table.keys ++ [key] := by
  unfold insert
  split <;> simp_all [keys, keys_replace]

theorem find?_replace_same {entries : List (κ × α)} {key : κ} {content : α}
    (known : key ∈ entries.map Prod.fst) :
    (replace entries key content).find? (·.1 = key) = some (key, content) := by
  induction entries with
  | nil => simp at known
  | cons entry rest ih =>
    by_cases same : entry.1 = key
    · simp [replace, same]
    · have later : key ∈ rest.map Prod.fst := by
        simpa [Ne.symm same] using known
      simpa [replace, same] using ih later

theorem find?_replace_other {entries : List (κ × α)} {key other : κ} {content : α}
    (different : key ≠ other) :
    (replace entries key content).find? (·.1 = other) = entries.find? (·.1 = other) := by
  induction entries with
  | nil => rfl
  | cons entry rest ih =>
    by_cases same : entry.1 = key
    · have apart : ¬ entry.1 = other := same ▸ different
      simpa [replace, same, apart, different] using ih
    · by_cases found : entry.1 = other
      · subst found
        simp [replace, same]
      · simpa [replace, same, found] using ih

theorem get?_insert (table : Table κ α) (key other : κ) (content : α) :
    (table.insert key content).get? other =
      if key = other then some content else table.get? other := by
  unfold insert
  split
  · rename_i known
    by_cases same : key = other
    · subst same
      simp [get?, find?_replace_same known]
    · simp [get?, find?_replace_other same, same]
  · rename_i fresh
    have absent : table.entries.find? (·.1 = key) = none := by
      rw [List.find?_eq_none]
      intro entry member
      have known : entry.1 ∈ table.keys := List.mem_map_of_mem member
      simp only [decide_eq_true_eq]
      intro same
      exact fresh (same ▸ known)
    by_cases same : key = other
    · subst same
      simp [get?, List.find?_append, absent]
    · simp [get?, List.find?_append, same]

end Lookup

/-- The table with the same keys and each content changed. -/
def mapContents (table : Table κ α) (f : α → β) : Table κ β where
  entries := table.entries.map fun entry => (entry.1, f entry.2)
  distinct := by
    rw [List.map_map]
    exact table.distinct

/-- The entries that pass a test. -/
def filter (table : Table κ α) (keep : κ × α → Bool) : Table κ α where
  entries := table.entries.filter keep
  distinct := (List.filter_sublist.map Prod.fst).nodup table.distinct

end Table

end PrismaEsdl
