import PrismaEsdl.Proofs.Document.Json
import PrismaEsdl.Proofs.Prisma.Contract
import PrismaEsdl.Proofs.Prisma.WellFormed

/-!
What is read as an argument.

An argument is a simple value, a list of arguments, or an object of one of three kinds: a call, a
keyed argument or an array (`IsValue`). The parts of a call and of an array stand in a row: a list,
or what stands for one, so that a text gives its code points and an object its keys. What has parts
needs room for them, and its parts have less of it than the whole.

Reading an argument derails in the first part that is not an argument, where a row is none, where
there is no room for what is to be read or reported, or where an object of another kind would have
to be shown and cannot be (`DerailsValue`). `contract_value` says that these are the exact
conditions, and that what is read is well-formed.
-/

namespace PrismaEsdl.Prisma.Reading

open Document (lookup)
open Outcome (bind_eq_ok_iff)

/-! ### Nodes -/

/-- Entries with a kind under `type`. -/
def HasType (kind : Text) (entries : List (Document × Document)) : Prop :=
  lookup "type" entries = some (.text kind)

/-- Entries with a text under a key that is not empty. -/
def HasText (key : Text) (entries : List (Document × Document)) : Prop :=
  ∃ t, t ≠ [] ∧ lookup key entries = some (.text t)

theorem HasType.unique {kind kind' : Text} {entries : List (Document × Document)}
    (typed : HasType kind entries) (typed' : HasType kind' entries) : kind = kind' := by
  unfold HasType at typed typed'
  rw [typed] at typed'
  cases typed'
  rfl

theorem textUnder?_eq_some_iff {key t : Text} {entries : List (Document × Document)} :
    textUnder? key entries = some t ↔ t ≠ [] ∧ lookup key entries = some (.text t) := by
  unfold textUnder?
  split
  · rename_i p rest found
    rw [found]
    constructor
    · rintro ⟨⟩
      exact ⟨List.cons_ne_nil p rest, rfl⟩
    · rintro ⟨_, ⟨⟩⟩
      rfl
  · rename_i absent
    refine iff_of_false nofun ?_
    rintro ⟨nonempty, found⟩
    obtain ⟨p, rest, rfl⟩ := List.exists_cons_of_ne_nil nonempty
    exact absent p rest found

theorem textUnder?_eq_none_iff {key : Text} {entries : List (Document × Document)} :
    textUnder? key entries = none ↔ ¬ HasText key entries := by
  simp only [Option.eq_none_iff_forall_ne_some, ne_eq, textUnder?_eq_some_iff, HasText, not_exists]

theorem contract_requiredText (node key : Text) (entries : List (Document × Document)) :
    Contract (requiredText node key entries) (HasText key entries) False (· ≠ []) := by
  unfold requiredText
  split
  · rename_i t found
    have named := textUnder?_eq_some_iff.mp found
    exact .ok ⟨t, named⟩ not_false named.1
  · rename_i absent
    exact .fault (textUnder?_eq_none_iff.mp absent) not_false

/-! ### Rows -/

/-- A row derails if it is none, or in the first of its parts that is not accepted. -/
def RowDerails (accepted derails : Document → Prop) (row : Document) : Prop :=
  ¬ row.IsListlike ∨ FirstDerails accepted derails row.children

section

variable {number : Binary64 → Prop} {row : Document}

theorem elements_of_isListlike (json : row.IsJson number) (listlike : row.IsListlike) :
    elements row = .ok row.children := by
  cases json with
  | null => rfl
  | bool b =>
      cases b with
      | false => rfl
      | true => cases listlike
  | int i =>
      have zero : i = 0 := listlike
      subst zero
      rfl
  | float _ =>
      have zero : Binary64.isZero _ = true := listlike
      simp [elements, Document.items?, Document.entries?, Document.isSomething, zero,
        Document.children]
  | text t => rfl
  | list _ => rfl
  | object _ _ _ => rfl

theorem elements_of_not_isListlike (json : row.IsJson number) (solid : ¬ row.IsListlike) :
    elements row = .error (.noElements row.kindName) := by
  cases json with
  | null => exact absurd trivial solid
  | bool b =>
      cases b with
      | false => exact absurd rfl solid
      | true => rfl
  | int i =>
      have nonzero : i ≠ 0 := solid
      simp [elements, Document.items?, Document.entries?, Document.isSomething, nonzero]
  | float _ =>
      have nonzero : ¬ Binary64.isZero _ = true := solid
      simp [elements, Document.items?, Document.entries?, Document.isSomething, nonzero]
  | text _ | list _ | object _ _ _ => exact absurd trivial solid

/-- The reading of a row, each part of it in the same way. -/
theorem contract_row {α : Type} {read : Document → Result α} {accepts derails : Document → Prop}
    {made : α → Prop} (json : row.IsJson number)
    (each : ∀ part ∈ row.children, Contract (read part) (accepts part) (derails part) made) :
    Contract (elements row >>= fun parts => parts.mapM read)
      (row.IsListlike ∧ ∀ part ∈ row.children, accepts part) (RowDerails accepts derails row)
      (fun values => ∀ value ∈ values, made value) := by
  by_cases listlike : row.IsListlike
  · rw [elements_of_isListlike json listlike]
    exact (Contract.mapM each).reword (by simp [listlike]) (by simp [RowDerails, listlike])
  · rw [elements_of_not_isListlike json listlike]
    exact .error (by simp [ReadingError.IsReported]) (fun accepted => listlike accepted.1)
      (Or.inl listlike)

end

/-! ### Arguments -/

/-- What is read as an argument where there is room for some nested calls. -/
inductive IsValue : Nat → Document → Prop where
  | null {room : Nat} : IsValue room .null
  | bool {room : Nat} (b : Bool) : IsValue room (.bool b)
  | int {room : Nat} (i : Int) : IsValue room (.int i)
  | float {room : Nat} (x : Binary64) : IsValue room (.float x)
  | text {room : Nat} (t : Text) : IsValue room (.text t)
  | list {room : Nat} {items : List Document} (fits : 3 ≤ room)
      (parts : ∀ item ∈ items, IsValue (room - 2) item) : IsValue room (.list items)
  | call {room : Nat} {entries : List (Document × Document)} (fits : 3 ≤ room)
      (kind : HasType "function" entries) (named : HasText "name" entries)
      (row : ∀ params ∈ lookup "params" entries, params.IsListlike)
      (parts : ∀ params ∈ lookup "params" entries, ∀ part ∈ params.children,
        IsValue (room - 2) part) : IsValue room (.object entries)
  | keyed {room : Nat} {entries : List (Document × Document)} (fits : 3 ≤ room)
      (kind : HasType "keyValue" entries) (named : HasText "key" entries)
      (part : ∀ content ∈ lookup "value" entries, IsValue (room - 1) content) :
      IsValue room (.object entries)
  | array {room : Nat} {entries : List (Document × Document)} (fits : 3 ≤ room)
      (kind : HasType "array" entries)
      (row : ∀ arguments ∈ lookup "args" entries, arguments.IsListlike)
      (parts : ∀ arguments ∈ lookup "args" entries, ∀ part ∈ arguments.children,
        IsValue (room - 2) part) : IsValue room (.object entries)

/-- The kinds of objects that are read as arguments. -/
def valueKinds : List Text := ["function", "keyValue", "array"]

/-- What is read for its parts, as far as can be told before any of them is read. -/
inductive HasParts : Document → Prop where
  | list (items : List Document) : HasParts (.list items)
  | call {entries : List (Document × Document)} (kind : HasType "function" entries)
      (named : HasText "name" entries) : HasParts (.object entries)
  | keyed {entries : List (Document × Document)} (kind : HasType "keyValue" entries)
      (named : HasText "key" entries) : HasParts (.object entries)
  | array {entries : List (Document × Document)} (kind : HasType "array" entries) :
      HasParts (.object entries)

/-- Where reading an argument derails. -/
inductive DerailsValue : Nat → Document → Prop where
  /-- There is no room for the parts. -/
  | deep {room : Nat} {document : Document} (parts : HasParts document) (deep : ¬ 3 ≤ room) :
      DerailsValue room document
  /-- There is no room for reporting that a call has no name. -/
  | unnamed {room : Nat} {entries : List (Document × Document)} (kind : HasType "function" entries)
      (unnamed : ¬ HasText "name" entries) (deep : ¬ 5 ≤ room) : DerailsValue room (.object entries)
  /-- There is no room for reporting that a keyed argument has no key. -/
  | unkeyed {room : Nat} {entries : List (Document × Document)} (kind : HasType "keyValue" entries)
      (unkeyed : ¬ HasText "key" entries) (deep : ¬ 5 ≤ room) : DerailsValue room (.object entries)
  | list {room : Nat} {before after : List Document} {part : Document} (fits : 3 ≤ room)
      (earlier : ∀ other ∈ before, IsValue (room - 2) other) (here : DerailsValue (room - 2) part) :
      DerailsValue room (.list (before ++ part :: after))
  | callRow {room : Nat} {entries : List (Document × Document)} {params : Document}
      (fits : 3 ≤ room) (kind : HasType "function" entries) (named : HasText "name" entries)
      (given : params ∈ lookup "params" entries) (solid : ¬ params.IsListlike) :
      DerailsValue room (.object entries)
  | call {room : Nat} {entries : List (Document × Document)} {params part : Document}
      {before after : List Document} (fits : 3 ≤ room) (kind : HasType "function" entries)
      (named : HasText "name" entries) (given : params ∈ lookup "params" entries)
      (parted : params.children = before ++ part :: after)
      (earlier : ∀ other ∈ before, IsValue (room - 2) other) (here : DerailsValue (room - 2) part) :
      DerailsValue room (.object entries)
  | keyed {room : Nat} {entries : List (Document × Document)} {content : Document}
      (fits : 3 ≤ room) (kind : HasType "keyValue" entries) (named : HasText "key" entries)
      (given : content ∈ lookup "value" entries) (here : DerailsValue (room - 1) content) :
      DerailsValue room (.object entries)
  | arrayRow {room : Nat} {entries : List (Document × Document)} {arguments : Document}
      (fits : 3 ≤ room) (kind : HasType "array" entries)
      (given : arguments ∈ lookup "args" entries) (solid : ¬ arguments.IsListlike) :
      DerailsValue room (.object entries)
  | array {room : Nat} {entries : List (Document × Document)} {arguments part : Document}
      {before after : List Document} (fits : 3 ≤ room) (kind : HasType "array" entries)
      (given : arguments ∈ lookup "args" entries)
      (parted : arguments.children = before ++ part :: after)
      (earlier : ∀ other ∈ before, IsValue (room - 2) other) (here : DerailsValue (room - 2) part) :
      DerailsValue room (.object entries)
  /-- An object of another kind has to be shown, and there has to be room for the report. -/
  | unshowable {room : Nat} {entries : List (Document × Document)}
      (unknown : ∀ kind ∈ valueKinds, ¬ HasType kind entries)
      (hidden : ¬ ((Document.object entries).Fits room ∧ 4 ≤ room)) :
      DerailsValue room (.object entries)

section

variable {room : Nat}

theorem isValue_list_iff {items : List Document} :
    IsValue room (.list items) ↔ 3 ≤ room ∧ ∀ item ∈ items, IsValue (room - 2) item :=
  ⟨fun | .list fits parts => ⟨fits, parts⟩, fun ⟨fits, parts⟩ => .list fits parts⟩

theorem derailsValue_list_iff {items : List Document} :
    DerailsValue room (.list items) ↔ ¬ 3 ≤ room ∨
      3 ≤ room ∧ FirstDerails (IsValue (room - 2)) (DerailsValue (room - 2)) items := by
  constructor
  · intro derails
    cases derails with
    | deep _ deep => exact .inl deep
    | list fits earlier here => exact .inr ⟨fits, _, _, _, rfl, earlier, here⟩
  · rintro (deep | ⟨fits, before, part, after, rfl, earlier, here⟩)
    · exact .deep (.list _) deep
    · exact .list fits earlier here

variable {entries : List (Document × Document)}

theorem isValue_call_iff (kind : HasType "function" entries) :
    IsValue room (.object entries) ↔ HasText "name" entries ∧ 3 ≤ room ∧
      ∀ params ∈ lookup "params" entries,
        params.IsListlike ∧ ∀ part ∈ params.children, IsValue (room - 2) part := by
  constructor
  · intro value
    cases value with
    | call fits _ named row parts =>
        exact ⟨named, fits, fun params given => ⟨row _ given, parts _ given⟩⟩
    | keyed _ other | array _ other => exact absurd (kind.unique other) (by decide)
  · rintro ⟨named, fits, row⟩
    exact .call fits kind named (fun params given => (row params given).1)
      fun params given => (row params given).2

theorem isValue_keyed_iff (kind : HasType "keyValue" entries) :
    IsValue room (.object entries) ↔ HasText "key" entries ∧ 3 ≤ room ∧
      ∀ content ∈ lookup "value" entries, IsValue (room - 1) content := by
  constructor
  · intro value
    cases value with
    | keyed fits _ named part => exact ⟨named, fits, part⟩
    | call _ other | array _ other => exact absurd (kind.unique other) (by decide)
  · rintro ⟨named, fits, part⟩
    exact .keyed fits kind named part

theorem isValue_array_iff (kind : HasType "array" entries) :
    IsValue room (.object entries) ↔ 3 ≤ room ∧ ∀ arguments ∈ lookup "args" entries,
      arguments.IsListlike ∧ ∀ part ∈ arguments.children, IsValue (room - 2) part := by
  constructor
  · intro value
    cases value with
    | array fits _ row parts =>
        exact ⟨fits, fun arguments given => ⟨row _ given, parts _ given⟩⟩
    | call _ other | keyed _ other => exact absurd (kind.unique other) (by decide)
  · rintro ⟨fits, row⟩
    exact .array fits kind (fun arguments given => (row arguments given).1)
      fun arguments given => (row arguments given).2

theorem not_isValue_of_unknown (unknown : ∀ kind ∈ valueKinds, ¬ HasType kind entries) :
    ¬ IsValue room (.object entries) := by
  intro value
  cases value with
  | call _ kind | keyed _ kind | array _ kind => exact unknown _ (by decide) kind

theorem hasParts_call_iff (kind : HasType "function" entries) :
    HasParts (.object entries) ↔ HasText "name" entries := by
  constructor
  · rintro (_ | ⟨_, named⟩ | other | other)
    · exact named
    · exact absurd (kind.unique other) (by decide)
    · exact absurd (kind.unique other) (by decide)
  · exact .call kind

theorem hasParts_keyed_iff (kind : HasType "keyValue" entries) :
    HasParts (.object entries) ↔ HasText "key" entries := by
  constructor
  · rintro (_ | other | ⟨_, named⟩ | other)
    · exact absurd (kind.unique other) (by decide)
    · exact named
    · exact absurd (kind.unique other) (by decide)
  · exact .keyed kind

theorem not_hasParts_of_unknown (unknown : ∀ kind ∈ valueKinds, ¬ HasType kind entries) :
    ¬ HasParts (.object entries) := by
  rintro (_ | kind | kind | kind) <;> exact unknown _ (by decide) kind

/-- Reading a call derails if there is no room for what is read or reported of it, and in its
row. -/
theorem derailsValue_call_iff (kind : HasType "function" entries) :
    DerailsValue room (.object entries) ↔
      ¬ HasText "name" entries ∧ ¬ 5 ≤ room ∨ HasText "name" entries ∧ (¬ 3 ≤ room ∨ 3 ≤ room ∧
        ∃ params ∈ lookup "params" entries,
          RowDerails (IsValue (room - 2)) (DerailsValue (room - 2)) params) := by
  constructor
  · intro derails
    cases derails with
    | deep parts deep => exact .inr ⟨(hasParts_call_iff kind).mp parts, .inl deep⟩
    | unnamed _ unnamed deep => exact .inl ⟨unnamed, deep⟩
    | callRow fits _ named given solid =>
        exact .inr ⟨named, .inr ⟨fits, _, given, .inl solid⟩⟩
    | call fits _ named given parted earlier here =>
        exact .inr ⟨named, .inr ⟨fits, _, given, .inr ⟨_, _, _, parted, earlier, here⟩⟩⟩
    | unkeyed other | keyed _ other | arrayRow _ other | array _ other =>
        exact absurd (kind.unique other) (by decide)
    | unshowable unknown => exact absurd kind (unknown _ (by decide))
  · rintro (⟨unnamed, deep⟩ | ⟨named, deep | ⟨fits, params, given, solid | here⟩⟩)
    · exact .unnamed kind unnamed deep
    · exact .deep (.call kind named) deep
    · exact .callRow fits kind named given solid
    · obtain ⟨before, part, after, parted, earlier, here⟩ := here
      exact .call fits kind named given parted earlier here

theorem derailsValue_keyed_iff (kind : HasType "keyValue" entries) :
    DerailsValue room (.object entries) ↔
      ¬ HasText "key" entries ∧ ¬ 5 ≤ room ∨ HasText "key" entries ∧ (¬ 3 ≤ room ∨ 3 ≤ room ∧
        ∃ content ∈ lookup "value" entries, DerailsValue (room - 1) content) := by
  constructor
  · intro derails
    cases derails with
    | deep parts deep => exact .inr ⟨(hasParts_keyed_iff kind).mp parts, .inl deep⟩
    | unkeyed _ unkeyed deep => exact .inl ⟨unkeyed, deep⟩
    | keyed fits _ named given here => exact .inr ⟨named, .inr ⟨fits, _, given, here⟩⟩
    | unnamed other | callRow _ other | call _ other | arrayRow _ other | array _ other =>
        exact absurd (kind.unique other) (by decide)
    | unshowable unknown => exact absurd kind (unknown _ (by decide))
  · rintro (⟨unkeyed, deep⟩ | ⟨named, deep | ⟨fits, content, given, here⟩⟩)
    · exact .unkeyed kind unkeyed deep
    · exact .deep (.keyed kind named) deep
    · exact .keyed fits kind named given here

theorem derailsValue_array_iff (kind : HasType "array" entries) :
    DerailsValue room (.object entries) ↔ ¬ 3 ≤ room ∨ 3 ≤ room ∧
      ∃ arguments ∈ lookup "args" entries,
        RowDerails (IsValue (room - 2)) (DerailsValue (room - 2)) arguments := by
  constructor
  · intro derails
    cases derails with
    | deep _ deep => exact .inl deep
    | arrayRow fits _ given solid => exact .inr ⟨fits, _, given, .inl solid⟩
    | array fits _ given parted earlier here =>
        exact .inr ⟨fits, _, given, .inr ⟨_, _, _, parted, earlier, here⟩⟩
    | unnamed other | callRow _ other | call _ other | unkeyed other | keyed _ other =>
        exact absurd (kind.unique other) (by decide)
    | unshowable unknown => exact absurd kind (unknown _ (by decide))
  · rintro (deep | ⟨fits, arguments, given, solid | here⟩)
    · exact .deep (.array kind) deep
    · exact .arrayRow fits kind given solid
    · obtain ⟨before, part, after, parted, earlier, here⟩ := here
      exact .array fits kind given parted earlier here

theorem derailsValue_unknown_iff (unknown : ∀ kind ∈ valueKinds, ¬ HasType kind entries) :
    DerailsValue room (.object entries) ↔ ¬ ((Document.object entries).Fits room ∧ 4 ≤ room) := by
  constructor
  · intro derails
    cases derails with
    | unshowable _ hidden => exact hidden
    | deep parts => exact absurd parts (not_hasParts_of_unknown unknown)
    | unnamed kind | callRow _ kind | call _ kind | unkeyed kind | keyed _ kind
    | arrayRow _ kind | array _ kind =>
        exact absurd kind (unknown _ (by decide))
  · exact .unshowable unknown

end

/-! ### Reading arguments -/

theorem values_eq_mapM (room : Nat) (around : Surroundings) (documents : List Document) :
    values room around documents = documents.mapM (value room around) := by
  induction documents with
  | nil => rfl
  | cons document rest ih => rw [values, ih, List.mapM_cons]

theorem valuesUnder_eq (room : Nat) (around : Surroundings) (key : Text)
    (entries : List (Document × Document)) :
    valuesUnder room around key entries = match lookup key entries with
      | some row => elementValues room around row
      | none => .ok [] := by
  induction entries with
  | nil => rfl
  | cons entry rest ih =>
      obtain ⟨name, content⟩ := entry
      cases name with
      | text t => by_cases same : t = key <;> simp [valuesUnder, lookup, same, ih]
      | _ => exact ih

theorem valueUnder_eq (room : Nat) (around : Surroundings) (key : Text)
    (entries : List (Document × Document)) :
    valueUnder room around key entries = match lookup key entries with
      | some content => value room around content
      | none => .ok .null := by
  induction entries with
  | nil => rfl
  | cons entry rest ih =>
      obtain ⟨name, content⟩ := entry
      cases name with
      | text t => by_cases same : t = key <;> simp [valueUnder, lookup, same, ih]
      | _ => exact ih

/-- The reading of a name that a nested value has to have. -/
theorem contract_innerText (room : Nat) (node key : Text) (entries : List (Document × Document)) :
    Contract (innerText room node key entries) (HasText key entries)
      (¬ HasText key entries ∧ ¬ 5 ≤ room) (· ≠ []) := by
  unfold innerText
  split
  · rename_i t found
    have nonempty := textUnder?_eq_some_iff.mp found
    have named : HasText key entries := ⟨t, nonempty⟩
    exact .ok named (fun derails => derails.1 named) nonempty.1
  · rename_i absent
    have unnamed := textUnder?_eq_none_iff.mp absent
    exact (Contract.faultIn unnamed).reword Iff.rfl (and_iff_right unnamed).symm

section

variable (number : Binary64 → Prop) (room : Nat)

/-- What is promised of the reading of a document as an argument. -/
def ValueContract (document : Document) : Prop :=
  Contract (value room [] document) (IsValue room document) (DerailsValue room document)
    (Value.IsWellFormed number)

/-- What is promised of the reading of a row of arguments under a key. -/
def RowContract (key : Text) (entries : List (Document × Document))
    (values : Result (List Value)) : Prop :=
  Contract values
    (∀ row ∈ lookup key entries, row.IsListlike ∧ ∀ part ∈ row.children, IsValue room part)
    (∃ row ∈ lookup key entries, RowDerails (IsValue room) (DerailsValue room) row)
    (fun values => ∀ value ∈ values, value.IsWellFormed number)

end

section

variable {number : Binary64 → Prop} {room : Nat}

/-- The reading of a row of arguments, also where its parts are code points or keys. -/
theorem contract_elementValues {row : Document} (json : row.IsJson number)
    (each : ∀ part ∈ row.children, ValueContract number room part) :
    Contract (elementValues room [] row)
      (row.IsListlike ∧ ∀ part ∈ row.children, IsValue room part)
      (RowDerails (IsValue room) (DerailsValue room) row)
      (fun values => ∀ value ∈ values, value.IsWellFormed number) := by
  by_cases isList : ∃ items, row = .list items
  · obtain ⟨items, rfl⟩ := isList
    have read : elementValues room [] (.list items) = items.mapM (value room []) :=
      values_eq_mapM room [] items
    rw [read]
    exact (Contract.mapM each).reword (by simp [Document.IsListlike, Document.children])
      (by simp [RowDerails, Document.IsListlike, Document.children])
  · -- The parts of what is no list are texts, so it does not matter that each of them is read as a
    -- simple value here.
    have read : elementValues room [] row
        = elements row >>= fun parts => parts.mapM (simpleValue room) := by
      cases json with
      | list _ => exact absurd ⟨_, rfl⟩ isList
      | _ => rfl
    rw [read]
    refine contract_row json fun part member => ?_
    rcases json.exists_text_of_children member with listed | ⟨t, rfl⟩
    · exact absurd listed isList
    · exact each _ member

variable {entries : List (Document × Document)}

theorem contract_valuesUnder (json : (Document.object entries).IsJson number) (key : Text)
    (each : ∀ row ∈ lookup key entries, ∀ part ∈ row.children, ValueContract number room part) :
    RowContract number room key entries (valuesUnder room [] key entries) := by
  rw [valuesUnder_eq]
  refine .under (nofun : ∀ value ∈ [], _) (fun missing => by rw [missing]) fun row found => ?_
  rw [found]
  exact contract_elementValues (json.of_lookup found) (each row found)

theorem contract_valueUnder (key : Text)
    (each : ∀ content ∈ lookup key entries, ValueContract number room content) :
    Contract (valueUnder room [] key entries)
      (∀ content ∈ lookup key entries, IsValue room content)
      (∃ content ∈ lookup key entries, DerailsValue room content)
      (Value.IsWellFormed number) := by
  rw [valueUnder_eq]
  refine .under .null (fun missing => by rw [missing]) fun content found => ?_
  rw [found]
  exact each content found

theorem contract_unsupported {document : Document} (json : document.IsJson number)
    {made : Value → Prop} :
    Contract (unsupported room document) False (¬ (document.Fits room ∧ 4 ≤ room)) made := by
  have read : Contract (unsupported room document) (document.Fits room ∧ False)
      (¬ document.Fits room ∨ document.Fits room ∧ ¬ 4 ≤ room) made :=
    (Contract.limited (Document.gives_quoted_iff json)).bind fun _ _ => .faultIn not_false
  exact read.reword (iff_of_eq (and_false _)) (by tauto)

/-- The reading of an object as an argument, from the readings of what stands under its keys. -/
theorem contract_objectValue (json : (Document.object entries).IsJson number)
    {params arguments : Result (List Value)} {content : Result Value}
    (paramsRow : RowContract number (room - 2) "params" entries params)
    (argumentsRow : RowContract number (room - 2) "args" entries arguments)
    (contentRead : Contract content (∀ part ∈ lookup "value" entries, IsValue (room - 1) part)
      (∃ part ∈ lookup "value" entries, DerailsValue (room - 1) part)
      (Value.IsWellFormed number)) :
    Contract (objectValue room (.object entries) entries params arguments content)
      (IsValue room (.object entries)) (DerailsValue room (.object entries))
      (Value.IsWellFormed number) := by
  have unknown : (∀ kind ∈ valueKinds, ¬ HasType kind entries) →
      Contract (unsupported room (.object entries)) (IsValue room (.object entries))
        (DerailsValue room (.object entries)) (Value.IsWellFormed number) := fun other =>
    (contract_unsupported json).reword (iff_of_false not_false (not_isValue_of_unknown other))
      (derailsValue_unknown_iff other).symm
  unfold objectValue
  split
  · rename_i kind found
    have typed : HasType kind entries := found
    split
    · rename_i same
      subst same
      have call := (contract_innerText room "function" "name" entries).bind fun name named =>
        Contract.after_enter 3 room fun _ =>
          paramsRow.map fun arguments parts => Value.IsWellFormed.call named parts
      exact call.reword (isValue_call_iff typed).symm (derailsValue_call_iff typed).symm
    · split
      · rename_i same
        subst same
        have keyed := (contract_innerText room "keyValue" "key" entries).bind fun key named =>
          Contract.after_enter 3 room fun _ =>
            contentRead.map fun value part => Value.IsWellFormed.keyed named part
        exact keyed.reword (isValue_keyed_iff typed).symm (derailsValue_keyed_iff typed).symm
      · split
        · rename_i same
          subst same
          have array := Contract.after_enter 3 room fun _ =>
            argumentsRow.map fun items parts => Value.IsWellFormed.list parts
          exact array.reword (isValue_array_iff typed).symm (derailsValue_array_iff typed).symm
        · rename_i noCall noKeyed noArray
          refine unknown fun other member typed' => ?_
          have same := typed.unique typed'
          subst same
          simp [valueKinds, noCall, noKeyed, noArray] at member
  · rename_i untyped
    exact unknown fun kind _ typed => untyped kind typed

/-- An argument is read exactly where it is one, and what is read is well-formed. The parts of a
row are no parts of the document that the row is in, so they are taken into the induction. -/
theorem contract_value_and_children {document : Document} (json : document.IsJson number) :
    ∀ room, ValueContract number room document ∧
      ∀ part ∈ document.children, ValueContract number room part := by
  have text (room : Nat) (t : Text) : ValueContract number room (.text t) :=
    .ok (.text t) nofun (.text t)
  induction json with
  | null => exact fun room => ⟨.ok .null nofun .null, nofun⟩
  | bool b => exact fun room => ⟨.ok (.bool b) nofun (.text _), nofun⟩
  | int i => exact fun room => ⟨.ok (.int i) nofun (.int i), nofun⟩
  | float fits => exact fun room => ⟨.ok (.float _) nofun (.float fits), nofun⟩
  | text t =>
      refine fun room => ⟨text room t, fun part member => ?_⟩
      obtain ⟨p, _, rfl⟩ := List.mem_map.mp member
      exact text room [p]
  | @list items _ ih =>
      intro room
      have parts : Contract (values (room - 2) [] items)
          (∀ item ∈ items, IsValue (room - 2) item)
          (FirstDerails (IsValue (room - 2)) (DerailsValue (room - 2)) items)
          (fun values => ∀ value ∈ values, value.IsWellFormed number) := by
        rw [values_eq_mapM]
        exact .mapM fun item member => (ih item member _).1
      have whole := Contract.after_enter 3 room fun _ =>
        parts.map fun items given => Value.IsWellFormed.list given
      exact ⟨whole.reword isValue_list_iff.symm derailsValue_list_iff.symm,
        fun item member => (ih item member _).1⟩
  | @object entries distinct keys contents ih =>
      intro room
      have whole : (Document.object entries).IsJson number := .object distinct keys contents
      have under {key content} (found : content ∈ lookup key entries) (room : Nat) :
          ValueContract number room content ∧
            ∀ part ∈ content.children, ValueContract number room part :=
        ih _ (Document.mem_of_lookup found) room
      refine ⟨?_, fun part member => ?_⟩
      · exact contract_objectValue whole
          (contract_valuesUnder whole "params" fun row found => (under found _).2)
          (contract_valuesUnder whole "args" fun row found => (under found _).2)
          (contract_valueUnder "value" fun content found => (under found _).1)
      · obtain ⟨entry, recorded, rfl⟩ := List.mem_map.mp member
        obtain ⟨name, same⟩ := keys entry recorded
        exact same ▸ text room name

theorem contract_value (room : Nat) {document : Document} (json : document.IsJson number) :
    ValueContract number room document :=
  (contract_value_and_children json room).1

theorem unsupported_ne_ok {document : Document} {made : Value} :
    unsupported room document ≠ .ok made := by
  intro read
  obtain ⟨_, _, read⟩ := bind_eq_ok_iff.mp read
  obtain ⟨_, _, ⟨⟩⟩ := bind_eq_ok_iff.mp read

/-- An object is read as a call only if it is of that kind, and then as nothing else. -/
theorem exists_call_iff {made : Value} (read : value room [] (.object entries) = .ok made) :
    (∃ name arguments, made = .call name arguments) ↔ HasType "function" entries := by
  unfold value objectValue at read
  split at read
  · rename_i kind found
    have typed : HasType kind entries := found
    split at read
    · rename_i same
      subst same
      obtain ⟨name, _, read⟩ := bind_eq_ok_iff.mp read
      obtain ⟨_, _, read⟩ := bind_eq_ok_iff.mp read
      obtain ⟨arguments, _, ⟨⟩⟩ := bind_eq_ok_iff.mp read
      exact iff_of_true ⟨_, _, rfl⟩ typed
    · rename_i noCall
      -- The other two kinds are read as something else than a call, and no other kind is read.
      refine iff_of_false ?_ fun call => noCall (typed.unique call)
      rintro ⟨name, arguments, rfl⟩
      split at read
      · obtain ⟨key, _, read⟩ := bind_eq_ok_iff.mp read
        obtain ⟨_, _, read⟩ := bind_eq_ok_iff.mp read
        obtain ⟨content, _, ⟨⟩⟩ := bind_eq_ok_iff.mp read
      · split at read
        · obtain ⟨_, _, read⟩ := bind_eq_ok_iff.mp read
          obtain ⟨items, _, ⟨⟩⟩ := bind_eq_ok_iff.mp read
        · exact unsupported_ne_ok read
  · exact absurd read unsupported_ne_ok

end

end PrismaEsdl.Prisma.Reading
