import PrismaEsdl.Document.Display
import PrismaEsdl.Json.Literal
import PrismaEsdl.Proofs.Text.Digits

/-!
Documents as JSON text in ASCII.

The items of a collection stand on one line, or each on a line of its own behind an indentation. A
character outside of ASCII is escaped by its number; one whose number needs more than 16 bits is
written as the two halves of a surrogate pair (`CodePoint.units`).
-/

namespace PrismaEsdl

/-! ### Units -/

/-- The units of 16 bits of a code point, each one taken as a code point of its own. -/
def CodePoint.units (p : CodePoint) : Text :=
  if p.value < 0x10000 then [p]
  else [.surrogate (Fin.ofNat 0x800 ((p.value - 0x10000) / 0x400)),
    .surrogate (Fin.ofNat 0x800 (0x400 + p.value % 0x400))]

/-- The units of 16 bits of a text. -/
def Text.units (t : Text) : Text := t.flatMap CodePoint.units

theorem CodePoint.value_lt_of_mem_units {p u : CodePoint} (member : u ∈ p.units) :
    u.value < 0x10000 := by
  unfold units at member
  split at member
  next small => exact List.mem_singleton.mp member ▸ small
  next =>
    have half (offset : Fin 0x800) : (surrogate offset).value < 0x10000 := by
      have := offset.isLt
      rw [value]
      omega
    rcases List.mem_cons.mp member with rfl | member
    · exact half _
    · exact List.mem_singleton.mp member ▸ half _

/-! ### Literals -/

/-- A character of ASCII that is shown, the space among them. -/
def CodePoint.IsPrintable (p : CodePoint) : Prop := 0x20 ≤ p.value ∧ p.value < 0x7f

instance (p : CodePoint) : Decidable p.IsPrintable := inferInstanceAs (Decidable (_ ∧ _))

namespace Json.Literal

/-- A code point by its number. -/
def numbered (p : CodePoint) : Text := .char '\\' :: .char 'u' :: Text.ofNatHex 4 p.value

/-- How a code point is written inside a literal that has to be in ASCII. -/
def asciiPoint (p : CodePoint) : Text :=
  if p.value < 0x7f then encodePoint p else p.units.flatMap numbered

/-- The literal of a text in ASCII. -/
def ascii (t : Text) : Text := .char '"' :: (t.flatMap asciiPoint ++ [.char '"'])

theorem isPrintable_numbered (p : CodePoint) : ∀ q ∈ numbered p, q.IsPrintable := by
  intro q member
  rcases List.mem_cons.mp member with rfl | member
  · decide
  rcases List.mem_cons.mp member with rfl | member
  · decide
  rcases List.mem_append.mp member with zero | digit
  · exact List.eq_of_mem_replicate zero ▸ by decide
  · obtain ⟨c, listed, rfl⟩ := List.mem_map.mp digit
    obtain ⟨d, small, rfl⟩ := Text.exists_of_mem_toDigits (by decide) listed
    have digits : ∀ d < 16, (CodePoint.char (Nat.digitChar d)).IsPrintable := by decide
    exact digits d small

theorem isPrintable_encodePoint {p : CodePoint} (small : p.value < 0x7f) :
    ∀ q ∈ encodePoint p, q.IsPrintable := by
  unfold encodePoint
  split
  all_goals first
    | decide
    | skip
  split
  · exact isPrintable_numbered p
  next printable =>
    intro q same
    rw [List.mem_singleton.mp same]
    exact ⟨by omega, small⟩

/-- A literal in ASCII has printable characters only. -/
theorem isPrintable_ascii (t : Text) : ∀ q ∈ ascii t, q.IsPrintable := by
  intro q member
  rcases List.mem_cons.mp member with rfl | member
  · decide
  rcases List.mem_append.mp member with inside | last
  · obtain ⟨p, -, written⟩ := List.mem_flatMap.mp inside
    unfold asciiPoint at written
    split at written
    next small => exact isPrintable_encodePoint small q written
    next =>
      obtain ⟨u, -, written⟩ := List.mem_flatMap.mp written
      exact isPrintable_numbered u q written
  · exact List.mem_singleton.mp last ▸ by decide

end Json.Literal

/-! ### Layout -/

/-- How the items of a collection are set apart. -/
inductive Json.Layout where
  | line
  /-- Each item stands on a line of its own, with an indentation for each collection around it. -/
  | lines (indentation : Text)

namespace Json.Layout

/-- What stands after an opening bracket, and before a closing one, inside of some collections. -/
def edge (layout : Layout) (depth : Nat) : Text :=
  match layout with
  | line => []
  | lines indentation => .char '\n' :: (List.replicate depth indentation).flatten

/-- What stands between two items. -/
def separator (layout : Layout) (depth : Nat) : Text :=
  match layout with
  | line => ", "
  | lines _ => .char ',' :: layout.edge depth

/-- A collection inside of others with the texts of its items. -/
def enclosed (layout : Layout) (depth : Nat) (opening closing : Char) (items : List Text) : Text :=
  if items.isEmpty then [.char opening, .char closing]
  else .char opening :: (layout.edge (depth + 1) ++ Text.join (layout.separator (depth + 1)) items
    ++ layout.edge depth ++ [.char closing])

end Json.Layout

namespace Document

open Json (Layout)

/-- A key as JSON text. -/
def keyToJson : Document → Text
  | text t => Json.Literal.ascii t
  | _ => []

mutual

/-- A document inside of some collections as JSON text; what JSON does not have is left out. -/
def toJsonIn (layout : Layout) (depth : Nat) : Document → Text
  | null => "null"
  | bool b => if b then "true" else "false"
  | int i => Text.ofInt i
  | float x => x.toText .plain
  | text t => Json.Literal.ascii t
  | list items => layout.enclosed depth '[' ']' (itemsToJson layout (depth + 1) items)
  | object entries => layout.enclosed depth '\x7b' '\x7d' (entriesToJson layout (depth + 1) entries)
  | _ => []

def itemsToJson (layout : Layout) (depth : Nat) : List Document → List Text
  | [] => []
  | item :: rest => toJsonIn layout depth item :: itemsToJson layout depth rest

def entriesToJson (layout : Layout) (depth : Nat) : List (Document × Document) → List Text
  | [] => []
  | (key, content) :: rest =>
    (keyToJson key ++ ": " ++ toJsonIn layout depth content) :: entriesToJson layout depth rest

end

theorem itemsToJson_eq_map (layout : Layout) (depth : Nat) (items : List Document) :
    itemsToJson layout depth items = items.map (toJsonIn layout depth) := by
  induction items with
  | nil => rfl
  | cons item items ih => rw [itemsToJson, ih, List.map_cons]

theorem entriesToJson_eq_map (layout : Layout) (depth : Nat)
    (entries : List (Document × Document)) : entriesToJson layout depth entries
      = entries.map fun entry => keyToJson entry.1 ++ ": " ++ toJsonIn layout depth entry.2 := by
  induction entries with
  | nil => rfl
  | cons entry entries ih => rw [entriesToJson, ih, List.map_cons]

/-- A document as JSON text. -/
def toJson (layout : Layout) (document : Document) : Text := document.toJsonIn layout 0

end Document

end PrismaEsdl
