import PrismaEsdl.Document.Display
import PrismaEsdl.Proofs.Document.Json
import PrismaEsdl.Proofs.Outcome

/-!
Which values can be shown.

A value is shown exactly if none of its integers has too many digits and there is room for the calls
that its parts are nested in (`gives_quoted_iff`).
-/

namespace PrismaEsdl

open Outcome (Gives gives_bind_iff gives_ok gives_return_iff not_gives_error)

/-! ### Calls -/

theorem Stack.gives_enter_iff {calls room : Nat} : Gives (Stack.enter calls room) ↔ calls ≤ room :=
  ⟨fun ⟨_, entered⟩ => enter_eq_ok_iff.mp entered, fun fits => ⟨_, enter_eq_ok_iff.mpr fits⟩⟩

/-- What is nested in some calls is shown if there is room for both. -/
theorem Stack.gives_enter_bind_iff {calls room : Nat} {α β : Type} {parts : Except Excess α}
    {f : α → β} :
    Gives (do Stack.enter calls room; return f (← parts)) ↔ calls ≤ room ∧ Gives parts := by
  rw [← gives_enter_iff]
  exact gives_bind_iff fun _ => gives_return_iff

/-- The parts fit into the rest of the room exactly if all fits. -/
theorem Stack.fits_sub_iff {showable : Prop} {calls most room : Nat} :
    (calls ≤ room ∧ showable ∧ most ≤ room - calls) ↔ showable ∧ calls + most ≤ room := by
  rw [and_left_comm]
  exact and_congr_right fun _ => by omega

namespace Document

mutual

/-- The nested calls that showing a value takes. -/
def calls : Document → Nat
  | list items | tuple items | set items => 1 + mostCalls items
  | object entries => 1 + mostEntryCalls entries
  | labelled _ collection => collection.calls
  | _ => 1

def mostCalls : List Document → Nat
  | [] => 0
  | item :: rest => max item.calls (mostCalls rest)

def mostEntryCalls : List (Document × Document) → Nat
  | [] => 0
  | (key, content) :: rest => max (max key.calls content.calls) (mostEntryCalls rest)

end

variable {number : Binary64 → Prop} {document : Document} {around : List Nat} {room : Nat}

/-- Whether every integer in a value can be shown and there is room for the calls. -/
def Fits (room : Nat) (document : Document) : Prop :=
  document.isShowable = true ∧ document.calls ≤ room

theorem gives_plainly_iff {t : Text} : Gives (plainly room t) ↔ 1 ≤ room := by
  rw [← Stack.gives_enter_iff]
  exact gives_return_iff

theorem gives_numeral_iff {i : Int} :
    Gives (numeral room i) ↔ Text.isShowable i = true ∧ 1 ≤ room := by
  rw [and_comm, ← Stack.gives_enter_iff]
  refine gives_bind_iff fun _ => ?_
  split
  · rename_i shown
    exact iff_of_true (gives_ok _) shown
  · rename_i hidden
    exact iff_of_false (not_gives_error _) hidden

theorem gives_quotedItems_iff {items : List Document}
    (each : ∀ item ∈ items, Gives (item.quotedIn around room) ↔ item.Fits room) :
    Gives (quotedItems around room items) ↔ areShowable items = true ∧ mostCalls items ≤ room := by
  induction items with
  | nil => exact iff_of_true (gives_ok _) ⟨rfl, Nat.zero_le _⟩
  | cons item rest ih =>
      obtain ⟨here, others⟩ := List.forall_mem_cons.mp each
      have both : Gives (quotedItems around room (item :: rest)) ↔
          Gives (item.quotedIn around room) ∧ Gives (quotedItems around room rest) :=
        gives_bind_iff fun _ => gives_return_iff
      rw [both, here, ih others, areShowable, mostCalls, Bool.and_eq_true, Nat.max_le, Fits]
      exact and_and_and_comm

theorem gives_quotedEntries_iff {entries : List (Document × Document)}
    (each : ∀ entry ∈ entries, (Gives (entry.1.quotedIn around room) ↔ entry.1.Fits room) ∧
      (Gives (entry.2.quotedIn around room) ↔ entry.2.Fits room)) :
    Gives (quotedEntries around room entries) ↔
      areShowableEntries entries = true ∧ mostEntryCalls entries ≤ room := by
  induction entries with
  | nil => exact iff_of_true (gives_ok _) ⟨rfl, Nat.zero_le _⟩
  | cons entry rest ih =>
      obtain ⟨key, content⟩ := entry
      obtain ⟨⟨keyShown, contentShown⟩, others⟩ := List.forall_mem_cons.mp each
      have all : Gives (quotedEntries around room ((key, content) :: rest)) ↔
          Gives (key.quotedIn around room) ∧ Gives (content.quotedIn around room) ∧
            Gives (quotedEntries around room rest) :=
        gives_bind_iff fun _ => gives_bind_iff fun _ => gives_return_iff
      rw [all, keyShown, contentShown, ih others, areShowableEntries, mostEntryCalls,
        Bool.and_eq_true, Bool.and_eq_true, Nat.max_le, Nat.max_le, Fits, Fits]
      tauto

theorem gives_quotedIn_iff (json : document.IsJson number) (around : List Nat) (room : Nat) :
    Gives (document.quotedIn around room) ↔ document.Fits room := by
  induction json generalizing room with
  | null | bool _ | float _ | text _ =>
    exact gives_plainly_iff.trans (by simp [Fits, isShowable, calls])
  | int i => exact gives_numeral_iff
  | list parts ih =>
    refine Stack.gives_enter_bind_iff.trans ?_
    rw [gives_quotedItems_iff fun item member => ih item member _]
    exact Stack.fits_sub_iff
  | object distinct keys contents ih =>
    refine Stack.gives_enter_bind_iff.trans ?_
    rw [gives_quotedEntries_iff fun entry member => ⟨?_, ih entry member _⟩]
    · exact Stack.fits_sub_iff
    · obtain ⟨name, same⟩ := keys entry member
      rw [same]
      exact gives_plainly_iff.trans (by simp [Fits, isShowable, calls])

/-- A JSON value is shown with its texts in quotes exactly if it fits. -/
theorem gives_quoted_iff (json : document.IsJson number) :
    Gives (document.quoted room) ↔ document.Fits room := gives_quotedIn_iff json [] room

/-- A JSON value is shown as it stands exactly if it is a text or fits. -/
theorem gives_display_iff (json : document.IsJson number) :
    Gives (document.display room) ↔ (∃ t, document = .text t) ∨ document.Fits room := by
  by_cases isText : ∃ t, document = .text t
  · obtain ⟨t, rfl⟩ := isText
    exact iff_of_true (gives_ok _) (.inl ⟨t, rfl⟩)
  · rw [or_iff_right isText, ← gives_quoted_iff json]
    cases json with
    | text t => exact absurd ⟨t, rfl⟩ isText
    | _ => rfl

end Document

end PrismaEsdl
