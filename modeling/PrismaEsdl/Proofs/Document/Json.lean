import PrismaEsdl.Document.Basic

/-!
JSON values among the documents.

A JSON value is made of null, booleans, numbers, texts, lists and objects whose keys are distinct
texts (`IsJson`). A JSON reader may take a number beyond all bounds for an infinite one, so the
fractional numbers are left open, and are named where they matter.

In the place of a list a JSON value gives its children: a list its items, a text its code points,
an object its keys. What counts as nothing gives none; `true` and the numbers other than zero
cannot stand there (`IsListlike`).
-/

namespace PrismaEsdl

/-- Whether a number is finite. -/
def Binary64.IsFinite : Binary64 → Prop
  | finite .. => True
  | infinite _ | notANumber => False

namespace Document

/-- A JSON value the fractional numbers of which are of some kind. -/
inductive IsJson (number : Binary64 → Prop) : Document → Prop where
  | null : IsJson number .null
  | bool (b : Bool) : IsJson number (.bool b)
  | int (i : Int) : IsJson number (.int i)
  | float {x : Binary64} (fits : number x) : IsJson number (.float x)
  | text (t : Text) : IsJson number (.text t)
  | list {items : List Document} (parts : ∀ item ∈ items, IsJson number item) :
      IsJson number (.list items)
  | object {entries : List (Document × Document)}
      (distinct : (entries.map Prod.fst).Nodup)
      (keys : ∀ entry ∈ entries, ∃ name, entry.1 = .text name)
      (contents : ∀ entry ∈ entries, IsJson number entry.2) : IsJson number (.object entries)

attribute [simp] IsJson.null IsJson.bool IsJson.int IsJson.text

@[simp] theorem isJson_list_iff {number : Binary64 → Prop} {items : List Document} :
    IsJson number (.list items) ↔ ∀ item ∈ items, IsJson number item :=
  ⟨fun | .list parts => parts, .list⟩

/-- Whether a JSON value can stand in the place of a list. -/
def IsListlike : Document → Prop
  | bool b => b = false
  | int i => i = 0
  | float x => x.isZero = true
  | _ => True

/-- What a JSON value gives in the place of a list. -/
def children : Document → List Document
  | list items => items
  | text t => t.map fun p => .text [p]
  | object entries => entries.map Prod.fst
  | _ => []

/-! ### Looking up -/

theorem mem_of_lookup {name : Text} {entries : List (Document × Document)} {content : Document}
    (found : content ∈ lookup name entries) : (.text name, content) ∈ entries := by
  induction entries with
  | nil => cases found
  | cons entry rest ih =>
      obtain ⟨key, known⟩ := entry
      cases key with
      | text other =>
          by_cases same : other = name
          · rw [lookup, if_pos same] at found
            cases found
            exact same ▸ .head _
          · rw [lookup, if_neg same] at found
            exact .tail _ (ih found)
      | _ => exact .tail _ (ih found)

variable {number : Binary64 → Prop} {entries : List (Document × Document)}

namespace IsJson

theorem of_lookup (json : IsJson number (.object entries)) {name : Text} {content : Document}
    (found : content ∈ lookup name entries) : IsJson number content := by
  cases json with
  | object _ _ contents => exact contents _ (mem_of_lookup found)

/-- The children of what is no list are texts. -/
theorem exists_text_of_children {document item : Document} (json : IsJson number document)
    (member : item ∈ document.children) :
    (∃ items, document = .list items) ∨ ∃ t, item = .text t := by
  cases json with
  | list parts => exact Or.inl ⟨_, rfl⟩
  | text t =>
      obtain ⟨p, _, rfl⟩ := List.mem_map.mp member
      exact Or.inr ⟨_, rfl⟩
  | object _ keys _ =>
      obtain ⟨entry, recorded, rfl⟩ := List.mem_map.mp member
      exact Or.inr (keys entry recorded)
  | null | bool _ | int _ | float _ => cases member

theorem of_children {document item : Document} (json : IsJson number document)
    (member : item ∈ document.children) : IsJson number item := by
  rcases json.exists_text_of_children member with ⟨items, rfl⟩ | ⟨t, rfl⟩
  · exact isJson_list_iff.mp json item member
  · exact .text t

end IsJson

/-! ### Lists of documents of some kind -/

/-- Something that counts as nothing, or a list of documents of some kind. -/
def IsListOf (good : Document → Prop) (document : Document) : Prop :=
  document.isSomething = false ∨ ∃ items, document = .list items ∧ ∀ item ∈ items, good item

/-- Where no text is good, a list of good documents is what has good children only. -/
theorem isListOf_iff {good : Document → Prop} (textless : ∀ t, ¬ good (.text t))
    {document : Document} (json : IsJson number document) :
    document.IsListOf good ↔ document.IsListlike ∧ ∀ item ∈ document.children, good item := by
  cases json with
  | null | bool _ | int _ | float _ => simp [IsListOf, isSomething, IsListlike, children]
  | text t => cases t <;> simp [IsListOf, isSomething, IsListlike, children, textless]
  | list parts =>
      rename_i items
      cases items <;> simp [IsListOf, isSomething, IsListlike, children]
  | object distinct keys contents =>
      rename_i entries
      cases entries with
      | nil => simp [IsListOf, isSomething, IsListlike, children]
      | cons entry rest =>
          obtain ⟨name, same⟩ := keys entry (.head _)
          simp [IsListOf, isSomething, IsListlike, children, same, textless]

/-! ### Objects with given keys -/

/-- The object with some contents under their names. -/
def ofFields (fields : List (Text × Document)) : Document :=
  .object (fields.map fun field => (.text field.1, field.2))

/-- Fields as the entries of an object. -/
def fieldEntries (fields : List (Text × Document)) : List (Document × Document) :=
  fields.map fun field => (.text field.1, field.2)

theorem exists_fields (keys : ∀ entry ∈ entries, ∃ name, entry.1 = .text name) :
    ∃ fields, entries = fieldEntries fields := by
  induction entries with
  | nil => exact ⟨[], rfl⟩
  | cons entry entries ih =>
    obtain ⟨name, key⟩ := keys entry List.mem_cons_self
    obtain ⟨fields, rfl⟩ := ih fun other member => keys other (List.mem_cons_of_mem _ member)
    exact ⟨(name, entry.2) :: fields, congrArg (· :: fieldEntries fields) (Prod.ext key rfl)⟩

theorem keys_ofFields (fields : List (Text × Document)) :
    (fields.map fun field => (Document.text field.1, field.2)).map Prod.fst
      = (fields.map Prod.fst).map Document.text := by
  simp

@[simp] theorem isJson_ofFields_iff {fields : List (Text × Document)} :
    IsJson number (ofFields fields) ↔
      (fields.map Prod.fst).Nodup ∧ ∀ field ∈ fields, IsJson number field.2 := by
  constructor
  · intro json
    cases json with
    | object distinct _ contents =>
        rw [keys_ofFields] at distinct
        constructor
        · exact List.Pairwise.of_map _ (fun _ _ apart same => apart (same ▸ rfl)) distinct
        · exact fun field given => contents _ (List.mem_map.mpr ⟨field, given, rfl⟩)
  · rintro ⟨distinct, contents⟩
    refine .object ?_ ?_ ?_
    · rw [keys_ofFields]
      exact List.Pairwise.map _ (fun _ _ apart same => apart (Document.text.inj same)) distinct
    · intro entry member
      obtain ⟨field, _, rfl⟩ := List.mem_map.mp member
      exact ⟨field.1, rfl⟩
    · intro entry member
      obtain ⟨field, given, rfl⟩ := List.mem_map.mp member
      exact contents field given

end Document

end PrismaEsdl
