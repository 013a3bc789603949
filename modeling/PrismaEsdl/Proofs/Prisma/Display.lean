import PrismaEsdl.Prisma.Model
import PrismaEsdl.Proofs.Document.Display

/-!
Which values of a schema can be shown.

As it is with documents, a value is shown exactly if none of its integers has too many digits and
there is room for the calls that its parts are nested in (`Value.gives_display_iff`).
-/

namespace PrismaEsdl.Prisma

open Document (gives_numeral_iff gives_plainly_iff)
open Outcome (Gives gives_bind_iff gives_ok gives_return_iff)

namespace Value

mutual

/-- Whether every integer in a value can be shown. -/
def isShowable : Value → Bool
  | int i => Text.isShowable i
  | call _ arguments => areShowable arguments
  | keyed _ value => value.isShowable
  | list items => areShowable items
  | null | text _ | bool _ | float _ => true

def areShowable : List Value → Bool
  | [] => true
  | item :: rest => item.isShowable && areShowable rest

end

mutual

/-- The nested calls that showing a value with its texts in quotes takes. -/
def quotedCalls : Value → Nat
  | call _ arguments => 4 + mostQuotedCalls arguments
  | keyed _ value => 3 + value.quotedCalls
  | list items => 4 + mostQuotedCalls items
  | null | text _ | bool _ | int _ | float _ => 1

def mostQuotedCalls : List Value → Nat
  | [] => 0
  | item :: rest => max item.quotedCalls (mostQuotedCalls rest)

end

mutual

/-- The nested calls that showing a value as it stands takes. -/
def calls : Value → Nat
  | text _ => 0
  | call _ arguments => 4 + mostCalls arguments
  | value => value.quotedCalls

def mostCalls : List Value → Nat
  | [] => 0
  | item :: rest => max item.calls (mostCalls rest)

end

/-- Whether every integer in a value can be shown and there is room for the calls. -/
def Fits (room : Nat) (value : Value) : Prop := value.isShowable = true ∧ value.calls ≤ room

theorem quotedCalls_pos (value : Value) : 0 < value.quotedCalls := by
  cases value <;> simp only [quotedCalls] <;> omega

mutual

/-- A value is shown with its texts in quotes exactly if it fits. -/
theorem gives_quoted_iff (room : Nat) : ∀ value : Value,
    Gives (value.quoted room) ↔ value.isShowable = true ∧ value.quotedCalls ≤ room
  | null | text _ | bool _ | float _ => gives_plainly_iff.trans (by simp [isShowable, quotedCalls])
  | int _ => gives_numeral_iff
  | call _ arguments => by
      refine Stack.gives_enter_bind_iff.trans ?_
      rw [gives_quotedItems_iff (room - 4) arguments]
      exact Stack.fits_sub_iff
  | keyed _ value => by
      refine Stack.gives_enter_bind_iff.trans ?_
      have := value.quotedCalls_pos
      rw [gives_quoted_iff (room - 3) value, isShowable, quotedCalls, and_left_comm]
      exact and_congr_right fun _ => by omega
  | list items => by
      refine Stack.gives_enter_bind_iff.trans ?_
      rw [gives_quotedItems_iff (room - 4) items]
      exact Stack.fits_sub_iff

theorem gives_quotedItems_iff (room : Nat) : ∀ items : List Value,
    Gives (quotedItems room items) ↔ areShowable items = true ∧ mostQuotedCalls items ≤ room
  | [] => iff_of_true (gives_ok _) ⟨rfl, Nat.zero_le _⟩
  | item :: rest => by
      have both : Gives (quotedItems room (item :: rest)) ↔
          Gives (item.quoted room) ∧ Gives (quotedItems room rest) :=
        gives_bind_iff fun _ => gives_return_iff
      rw [both, gives_quoted_iff room item, gives_quotedItems_iff room rest, areShowable,
        mostQuotedCalls, Bool.and_eq_true, Nat.max_le]
      exact and_and_and_comm

end

mutual

/-- A value is shown as it stands exactly if it fits. -/
theorem gives_display_iff (room : Nat) : ∀ value : Value,
    Gives (value.display room) ↔ value.Fits room
  | text _ => iff_of_true (gives_ok _) ⟨rfl, Nat.zero_le _⟩
  | null | bool _ | float _ =>
    gives_plainly_iff.trans (by simp [Fits, isShowable, calls, quotedCalls])
  | int _ => gives_numeral_iff
  | call _ arguments => by
      refine Stack.gives_enter_bind_iff.trans ?_
      rw [gives_displayItems_iff (room - 4) arguments]
      exact Stack.fits_sub_iff
  | keyed key value => gives_quoted_iff room (keyed key value)
  | list items => gives_quoted_iff room (list items)

theorem gives_displayItems_iff (room : Nat) : ∀ items : List Value,
    Gives (displayItems room items) ↔ areShowable items = true ∧ mostCalls items ≤ room
  | [] => iff_of_true (gives_ok _) ⟨rfl, Nat.zero_le _⟩
  | item :: rest => by
      have both : Gives (displayItems room (item :: rest)) ↔
          Gives (item.display room) ∧ Gives (displayItems room rest) :=
        gives_bind_iff fun _ => gives_return_iff
      rw [both, gives_display_iff room item, gives_displayItems_iff room rest, areShowable,
        mostCalls, Bool.and_eq_true, Nat.max_le]
      exact and_and_and_comm

end

end Value

namespace FieldType

/-- Whether there is room to show a type. -/
def Fits (room : Nat) : FieldType → Prop
  | named _ => True
  | call name arguments => (Value.call name arguments).Fits room

theorem gives_display_iff (room : Nat) (type : FieldType) :
    Gives (type.display room) ↔ type.Fits room := by
  cases type with
  | named name => exact iff_of_true (gives_ok name) trivial
  | call name arguments => exact Value.gives_display_iff room _

end FieldType

end PrismaEsdl.Prisma
