import PrismaEsdl.Table

/-!
What the entries of a table are.

`get?_eq_some_iff` joins the two views of a table, by key and by entry. A new key goes to the end
(`entries_insert_of_fresh`). A table of pairs holds nothing but those pairs
(`mem_of_mem_entries_ofList`), and all of them if their keys are distinct
(`entries_ofList_of_nodup`), whatever their order (`get?_ofList_of_perm`); what it has under a key
depends on the pairs of this key only (`get?_ofList_filter`). In general its keys are in the order
in which they come first (`keys_insertMany`), and the last pair of a key has its content
(`get?_insertMany`), which makes it an index of whatever the pairs are taken from
(`indexes_ofList`). Where every content is recorded under its own name, the keys are the names of
the contents (`keys_eq_names`).
-/

namespace PrismaEsdl.Table

variable {κ : Type u} {α : Type v} {β : Type w}

theorem eq_of_entries {table other : Table κ α} (same : table.entries = other.entries) :
    table = other := by
  cases table
  cases other
  cases same
  rfl

theorem keys_nodup (table : Table κ α) : table.keys.Nodup := table.distinct

theorem mem_keys_of_mem_entries {table : Table κ α} {key : κ} {content : α}
    (member : (key, content) ∈ table.entries) : key ∈ table.keys :=
  List.mem_map.mpr ⟨_, member, rfl⟩

theorem mem_contents_of_mem_entries {table : Table κ α} {key : κ} {content : α}
    (member : (key, content) ∈ table.entries) : content ∈ table.contents :=
  List.mem_map.mpr ⟨_, member, rfl⟩

theorem exists_key_of_mem_contents {table : Table κ α} {content : α}
    (member : content ∈ table.contents) : ∃ key, (key, content) ∈ table.entries := by
  obtain ⟨⟨key, _⟩, recorded, rfl⟩ := List.mem_map.mp member
  exact ⟨key, recorded⟩

theorem exists_content_of_mem_keys {table : Table κ α} {key : κ} (member : key ∈ table.keys) :
    ∃ content, (key, content) ∈ table.entries := by
  obtain ⟨⟨_, content⟩, recorded, rfl⟩ := List.mem_map.mp member
  exact ⟨content, recorded⟩

/-- In a list whose keys are distinct a key has one content. -/
theorem content_unique {entries : List (κ × α)} (distinct : (entries.map Prod.fst).Nodup)
    {key : κ} {content content' : α} (member : (key, content) ∈ entries)
    (member' : (key, content') ∈ entries) : content = content' := by
  induction entries with
  | nil => cases member
  | cons entry rest ih =>
      obtain ⟨absent, distinctRest⟩ := List.nodup_cons.mp distinct
      rcases List.mem_cons.mp member with rfl | later
      · rcases List.mem_cons.mp member' with same | later'
        · exact (Prod.mk.inj same).2.symm
        · exact absurd (List.mem_map.mpr ⟨_, later', rfl⟩) absent
      · rcases List.mem_cons.mp member' with rfl | later'
        · exact absurd (List.mem_map.mpr ⟨_, later, rfl⟩) absent
        · exact ih distinctRest later later'

@[simp] theorem keys_mapContents (table : Table κ α) (f : α → β) :
    (table.mapContents f).keys = table.keys := by
  simp [keys, mapContents]

@[simp] theorem contents_mapContents (table : Table κ α) (f : α → β) :
    (table.mapContents f).contents = table.contents.map f := by
  simp [contents, mapContents]

section Lookup

variable [DecidableEq κ]

theorem contains_iff_mem_keys {table : Table κ α} {key : κ} :
    table.contains key = true ↔ key ∈ table.keys :=
  decide_eq_true_iff

/-- Looking up a key gives the content that is recorded under it. -/
theorem get?_eq_some_iff {table : Table κ α} {key : κ} {content : α} :
    table.get? key = some content ↔ (key, content) ∈ table.entries := by
  constructor
  · intro found
    obtain ⟨⟨other, _⟩, search, rfl⟩ := Option.map_eq_some_iff.mp found
    have same : other = key := by simpa using List.find?_some search
    exact same ▸ List.mem_of_find?_eq_some search
  · intro member
    unfold get?
    cases search : table.entries.find? (·.1 = key) with
    | none =>
        have different := List.find?_eq_none.mp search _ member
        simp at different
    | some entry =>
        obtain ⟨other, content'⟩ := entry
        have same : other = key := by simpa using List.find?_some search
        subst same
        rw [content_unique table.distinct member (List.mem_of_find?_eq_some search)]
        rfl

theorem get?_eq_none_iff {table : Table κ α} {key : κ} :
    table.get? key = none ↔ key ∉ table.keys := by
  constructor
  · intro missing known
    obtain ⟨content, member⟩ := exists_content_of_mem_keys known
    rw [get?_eq_some_iff.mpr member] at missing
    cases missing
  · intro unknown
    cases found : table.get? key with
    | none => rfl
    | some content => exact absurd (mem_keys_of_mem_entries (get?_eq_some_iff.mp found)) unknown

theorem isSome_get? (table : Table κ α) (key : κ) :
    (table.get? key).isSome = table.contains key := by
  cases found : table.get? key with
  | none => simp [contains, get?_eq_none_iff.mp found]
  | some content =>
      simp [contains, mem_keys_of_mem_entries (get?_eq_some_iff.mp found)]

/-- A key that is there keeps its place. -/
theorem entries_insert_of_known {table : Table κ α} {key : κ} (known : key ∈ table.keys)
    (content : α) : (table.insert key content).entries = replace table.entries key content := by
  simp [insert, known]

/-- A new key goes to the end. -/
theorem entries_insert_of_fresh {table : Table κ α} {key : κ} (fresh : key ∉ table.keys)
    (content : α) : (table.insert key content).entries = table.entries ++ [(key, content)] := by
  simp [insert, fresh]

theorem mem_entries_insert {table : Table κ α} {key : κ} {content : α} {entry : κ × α}
    (member : entry ∈ (table.insert key content).entries) :
    entry = (key, content) ∨ entry ∈ table.entries := by
  unfold insert at member
  split at member
  · obtain ⟨kept, recorded, rfl⟩ := List.mem_map.mp member
    by_cases same : kept.1 = key
    · simp [same]
    · simpa [same] using Or.inr recorded
  · rcases List.mem_append.mp member with recorded | last
    · exact Or.inr recorded
    · exact Or.inl (List.mem_singleton.mp last)

/-! ### Tables with changed contents -/

theorem get?_mapContents (table : Table κ α) (f : α → β) (key : κ) :
    (table.mapContents f).get? key = (table.get? key).map f := by
  simp [get?, mapContents, List.find?_map, Function.comp_def]

theorem mapContents_insert (table : Table κ α) (f : α → β) (key : κ) (content : α) :
    (table.insert key content).mapContents f = (table.mapContents f).insert key (f content) := by
  apply eq_of_entries
  have changed : ∀ table : Table κ α, (table.mapContents f).entries
      = table.entries.map fun entry => (entry.1, f entry.2) := fun _ => rfl
  by_cases known : key ∈ table.keys
  · have known' : key ∈ (table.mapContents f).keys := by rwa [keys_mapContents]
    rw [changed, entries_insert_of_known known, entries_insert_of_known known', changed, replace,
      replace, List.map_map, List.map_map]
    apply List.map_congr_left
    intro entry _
    by_cases same : entry.1 = key <;> simp [same]
  · have fresh : key ∉ (table.mapContents f).keys := by rwa [keys_mapContents]
    rw [changed, entries_insert_of_fresh known, entries_insert_of_fresh fresh, changed,
      List.map_append]
    rfl

/-! ### Tables of pairs -/

theorem insertMany_cons (table : Table κ α) (pair : κ × α) (rest : List (κ × α)) :
    table.insertMany (pair :: rest) = (table.insert pair.1 pair.2).insertMany rest := rfl

theorem mem_entries_insertMany {pairs : List (κ × α)} {table : Table κ α} {entry : κ × α}
    (member : entry ∈ (table.insertMany pairs).entries) :
    entry ∈ pairs ∨ entry ∈ table.entries := by
  induction pairs generalizing table with
  | nil => exact Or.inr member
  | cons pair rest ih =>
      rcases ih member with later | recorded
      · exact Or.inl (List.mem_cons_of_mem _ later)
      · rcases mem_entries_insert recorded with rfl | earlier
        · exact Or.inl List.mem_cons_self
        · exact Or.inr earlier

/-- A table of pairs holds nothing else. -/
theorem mem_of_mem_entries_ofList {pairs : List (κ × α)} {entry : κ × α}
    (member : entry ∈ (ofList pairs).entries) : entry ∈ pairs := by
  rcases mem_entries_insertMany member with given | none
  · exact given
  · cases none

theorem entries_insertMany_of_nodup {pairs : List (κ × α)} :
    ∀ {table : Table κ α}, (table.keys ++ pairs.map Prod.fst).Nodup →
      (table.insertMany pairs).entries = table.entries ++ pairs := by
  induction pairs with
  | nil => intro table _; exact (List.append_nil _).symm
  | cons pair rest ih =>
      intro table distinct
      have fresh : pair.1 ∉ table.keys := by
        intro known
        exact (List.nodup_append.mp distinct).2.2 _ known _ List.mem_cons_self rfl
      have distinctRest : ((table.insert pair.1 pair.2).keys ++ rest.map Prod.fst).Nodup := by
        rw [keys_insert, if_neg fresh]
        simpa using distinct
      rw [insertMany_cons, ih distinctRest, entries_insert_of_fresh fresh]
      simp

/-- A table of pairs with distinct keys has these pairs for its entries. -/
theorem entries_ofList_of_nodup {pairs : List (κ × α)} (distinct : (pairs.map Prod.fst).Nodup) :
    (ofList pairs).entries = pairs := by
  have distinct' : ((∅ : Table κ α).keys ++ pairs.map Prod.fst).Nodup := distinct
  exact entries_insertMany_of_nodup distinct'

/-- A table of pairs with distinct keys holds the same in any order of the pairs. -/
theorem get?_ofList_of_perm {pairs pairs' : List (κ × α)} (same : pairs.Perm pairs')
    (distinct : (pairs.map Prod.fst).Nodup) (key : κ) :
    (ofList pairs).get? key = (ofList pairs').get? key := by
  have distinct' : (pairs'.map Prod.fst).Nodup := (same.map Prod.fst).nodup_iff.mp distinct
  apply Option.ext
  intro content
  rw [get?_eq_some_iff, get?_eq_some_iff, entries_ofList_of_nodup distinct,
    entries_ofList_of_nodup distinct', same.mem_iff]

/-- What a table of pairs has under a key depends on the pairs of this key only. -/
theorem get?_insertMany_filter {pairs : List (κ × α)} {keep : κ → Bool} {key : κ}
    (kept : keep key = true) :
    ∀ {table other : Table κ α}, table.get? key = other.get? key →
      (table.insertMany (pairs.filter fun pair => keep pair.1)).get? key
        = (other.insertMany pairs).get? key := by
  induction pairs with
  | nil => intro table other same; exact same
  | cons pair rest ih =>
      intro table other same
      rw [insertMany_cons]
      cases keeps : keep pair.1 with
      | true =>
          rw [List.filter_cons_of_pos (by simpa using keeps), insertMany_cons]
          exact ih (by rw [get?_insert, get?_insert, same])
      | false =>
          have different : pair.1 ≠ key := by
            intro equal
            rw [equal, kept] at keeps
            cases keeps
          rw [List.filter_cons_of_neg (by simp [keeps])]
          exact ih (by rw [get?_insert, if_neg different, same])

theorem get?_ofList_filter (pairs : List (κ × α)) {keep : κ → Bool} {key : κ}
    (kept : keep key = true) :
    (ofList (pairs.filter fun pair => keep pair.1)).get? key = (ofList pairs).get? key :=
  get?_insertMany_filter kept rfl

/-! ### First positions and last contents -/

/-- New keys go behind the old ones, in the order in which they come first. -/
theorem keys_insertMany (pairs : List (κ × α)) : ∀ table : Table κ α,
    (table.insertMany pairs).keys
      = table.keys ++ ((pairs.map Prod.fst).filter (!table.contains ·)).eraseDups := by
  induction pairs with
  | nil => intro table; simp [insertMany]
  | cons pair rest ih =>
      intro table
      rw [insertMany_cons, ih, List.map_cons]
      by_cases known : pair.1 ∈ table.keys
      · have keys : (table.insert pair.1 pair.2).keys = table.keys := by
          rw [keys_insert, if_pos known]
        simp only [contains, keys]
        rw [List.filter_cons_of_neg (by simpa using known)]
      · have keys : (table.insert pair.1 pair.2).keys = table.keys ++ [pair.1] := by
          rw [keys_insert, if_neg known]
        have later : ∀ key, (!decide (key ∈ table.keys ++ [pair.1]))
            = ((!key == pair.1) && !decide (key ∈ table.keys)) := by
          intro key
          by_cases same : key = pair.1 <;> simp [same]
        simp only [contains, keys, later]
        rw [List.filter_cons_of_pos (by simpa using known), List.eraseDups_cons,
          List.filter_filter, List.append_assoc, List.singleton_append]

theorem keys_ofList (pairs : List (κ × α)) :
    (ofList pairs).keys = (pairs.map Prod.fst).eraseDups := by
  have none : (∅ : Table κ α).keys = [] := rfl
  have all : (pairs.map Prod.fst).filter (!(∅ : Table κ α).contains ·) = pairs.map Prod.fst :=
    List.filter_eq_self.mpr (by simp [contains, none])
  rw [ofList, keys_insertMany, all, none, List.nil_append]

/-- The content that a pair gives to a key. -/
def contentFor? (key : κ) (pair : κ × α) : Option α := if pair.1 = key then some pair.2 else none

theorem contentFor?_eq_some_iff {key : κ} {pair : κ × α} {content : α} :
    contentFor? key pair = some content ↔ pair = (key, content) := by
  obtain ⟨other, given⟩ := pair
  by_cases same : other = key <;> simp [contentFor?, same]

/-- The last pair of a key decides over its content. -/
theorem get?_insertMany (pairs : List (κ × α)) (key : κ) : ∀ table : Table κ α,
    (table.insertMany pairs).get? key
      = (pairs.filterMap (contentFor? key)).getLast?.or (table.get? key) := by
  induction pairs with
  | nil => intro table; rfl
  | cons pair rest ih =>
      intro table
      rw [insertMany_cons, ih, get?_insert, List.filterMap_cons, contentFor?]
      by_cases same : pair.1 = key
      · rw [if_pos same, if_pos same]
        dsimp only
        rw [List.getLast?_cons]
        cases (rest.filterMap (contentFor? key)).getLast? <;> rfl
      · rw [if_neg same, if_neg same]

/-- A list without repetitions stays as it is when repetitions are taken out. -/
theorem eraseDups_eq_self {keys : List κ} (distinct : keys.Nodup) : keys.eraseDups = keys := by
  induction keys with
  | nil => rfl
  | cons key rest ih =>
      obtain ⟨absent, distinctRest⟩ := List.nodup_cons.mp distinct
      have others : rest.filter (fun other => !other == key) = rest := by
        refine List.filter_eq_self.mpr fun other member => ?_
        simpa using fun same : other = key => absent (same ▸ member)
      rw [List.eraseDups_cons, others, ih distinctRest]

/-- Pairs with distinct keys go behind a table in their order, but for the keys that are there. -/
theorem keys_insertMany_of_nodup (table : Table κ α) {pairs : List (κ × α)}
    (distinct : (pairs.map Prod.fst).Nodup) :
    (table.insertMany pairs).keys
      = table.keys ++ (pairs.map Prod.fst).filter (!table.contains ·) := by
  rw [keys_insertMany, eraseDups_eq_self (distinct.filter _)]

/-- Pairs with distinct keys give their contents, and the other keys keep theirs. -/
theorem get?_insertMany_of_nodup {table : Table κ α} {pairs : List (κ × α)}
    (distinct : (pairs.map Prod.fst).Nodup) {key : κ} {content : α} :
    (table.insertMany pairs).get? key = some content ↔
      (key, content) ∈ pairs ∨ key ∉ pairs.map Prod.fst ∧ table.get? key = some content := by
  have given : ∀ {other}, other ∈ pairs.filterMap (contentFor? key) ↔ (key, other) ∈ pairs := by
    intro other
    simp only [List.mem_filterMap, contentFor?_eq_some_iff, exists_eq_right]
  rw [get?_insertMany]
  cases last : (pairs.filterMap (contentFor? key)).getLast? with
  | none =>
      have nothing : ∀ other, (key, other) ∉ pairs := by
        intro other member
        rw [List.getLast?_eq_none_iff] at last
        exact List.not_mem_nil (last ▸ given.mpr member)
      have absent : key ∉ pairs.map Prod.fst := by
        intro member
        obtain ⟨⟨_, other⟩, recorded, rfl⟩ := List.mem_map.mp member
        exact nothing other recorded
      simp [nothing, absent]
  | some other =>
      have recorded : (key, other) ∈ pairs := given.mp (List.mem_of_getLast? last)
      have known : key ∈ pairs.map Prod.fst := List.mem_map.mpr ⟨_, recorded, rfl⟩
      rw [Option.some_or, Option.some_inj]
      constructor
      · rintro rfl
        exact Or.inl recorded
      · rintro (same | ⟨absent, _⟩)
        · exact content_unique distinct recorded same
        · exact absurd known absent

/-- A table is the index of some nodes, each of which may have an entry: its keys are those of the
nodes in the order in which they come first, and the last node of a key has its content. -/
structure Indexes (table : Table κ α) (nodes : List β) (entryOf? : β → Option (κ × α)) : Prop where
  keys_eq : table.keys = (nodes.filterMap fun node => (entryOf? node).map Prod.fst).eraseDups
  get?_iff : ∀ key content, table.get? key = some content ↔
    ∃ before node after, nodes = before ++ node :: after ∧ entryOf? node = some (key, content) ∧
      ∀ later ∈ after, ∀ other, entryOf? later ≠ some (key, other)

theorem indexes_ofList (nodes : List β) (entryOf? : β → Option (κ × α)) :
    (ofList (nodes.filterMap entryOf?)).Indexes nodes entryOf? where
  keys_eq := by rw [keys_ofList, List.map_filterMap]
  get?_iff key content := by
    have here : ∀ node, (entryOf? node).bind (contentFor? key) = some content ↔
        entryOf? node = some (key, content) := by
      intro node
      simp only [Option.bind_eq_some_iff, contentFor?_eq_some_iff, exists_eq_right]
    have elsewhere : ∀ node, (entryOf? node).bind (contentFor? key) = none ↔
        ∀ other, entryOf? node ≠ some (key, other) := by
      intro node
      simp only [Option.eq_none_iff_forall_ne_some, Option.bind_eq_some_iff,
        contentFor?_eq_some_iff, exists_eq_right, ne_eq]
    have last : (ofList (nodes.filterMap entryOf?)).get? key
        = nodes.reverse.findSome? fun node => (entryOf? node).bind (contentFor? key) := by
      have nothing : (∅ : Table κ α).get? key = none := rfl
      rw [ofList, get?_insertMany, nothing, Option.or_none, List.filterMap_filterMap,
        List.getLast?_filterMap]
    rw [last, List.findSome?_eq_some_iff]
    simp only [here, elsewhere]
    constructor
    · rintro ⟨after, node, before, turned, found, later⟩
      refine ⟨before.reverse, node, after.reverse, ?_, found, fun other member => ?_⟩
      · rw [← List.reverse_reverse nodes, turned]
        simp
      · exact later other (List.mem_reverse.mp member)
    · rintro ⟨before, node, after, rfl, found, later⟩
      refine ⟨after.reverse, node, before.reverse, by simp, found, fun other member => ?_⟩
      exact later other (List.mem_reverse.mp member)

/-- The nodes may be picked first, and their entries made of what is picked. -/
theorem indexes_ofList_picked {γ : Type x} (nodes : List β) {pick? : β → Option γ}
    {make : γ → κ × α} {entryOf? : β → Option (κ × α)}
    (picked : ∀ node, entryOf? node = (pick? node).map make) :
    (ofList ((nodes.filterMap pick?).map make)).Indexes nodes entryOf? := by
  have entries : (nodes.filterMap pick?).map make = nodes.filterMap entryOf? := by
    rw [List.map_filterMap, funext picked]
  rw [entries]
  exact indexes_ofList nodes entryOf?

/-! ### Tables of changed pairs -/

theorem mapContents_insertMany (table : Table κ α) (f : α → β) (pairs : List (κ × α)) :
    (table.insertMany pairs).mapContents f
      = (table.mapContents f).insertMany (pairs.map fun pair => (pair.1, f pair.2)) := by
  induction pairs generalizing table with
  | nil => rfl
  | cons pair rest ih => rw [insertMany_cons, ih, mapContents_insert]; rfl

/-- Changing the contents of a table of pairs is changing the pairs. -/
theorem mapContents_ofList (f : α → β) (pairs : List (κ × α)) :
    (ofList pairs).mapContents f = ofList (pairs.map fun pair => (pair.1, f pair.2)) :=
  mapContents_insertMany ∅ f pairs

end Lookup

/-- Where every content is recorded under its own name, the keys are the names of the contents. -/
theorem keys_eq_names {table : Table κ α} {name : α → κ}
    (named : ∀ key content, (key, content) ∈ table.entries → name content = key) :
    table.keys = table.contents.map name := by
  rw [keys, contents, List.map_map]
  exact List.map_congr_left fun entry member => (named entry.1 entry.2 member).symm

end PrismaEsdl.Table
