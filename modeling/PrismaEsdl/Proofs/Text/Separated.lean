import PrismaEsdl.Text.CodePoint

/-!
Parts that can be told from what stands around them.

Where no part is empty and none holds the first element of the separator, a joined list determines
its parts (`intercalate_injective`): the first part ends where that element first stands. A text is
split in the same places (`split_append`). Where no part of a first section begins like an element
of a second, a list of the two determines both (`sections_injective`). This serves for texts of
words as well as for lists of lines.
-/

namespace PrismaEsdl.Text

variable {α : Type u} {mark : α} {tail : List α}

/-- A part that can be told from the separators around it. -/
structure IsPart (mark : α) (part : List α) : Prop where
  nonempty : part ≠ []
  unmarked : mark ∉ part

/-- A part that does not hold the mark ends where the mark first stands. -/
theorem append_mark_injective :
    ∀ {part part' rest rest' : List α}, mark ∉ part → mark ∉ part' →
      part ++ mark :: rest = part' ++ mark :: rest' → part = part' ∧ rest = rest'
  | [], [], _, _, _, _, same => ⟨rfl, (List.cons.inj same).2⟩
  | [], a :: _, _, _, _, right, same => by
      have first : mark = a := (List.cons.inj same).1
      subst first
      exact absurd List.mem_cons_self right
  | a :: _, [], _, _, left, _, same => by
      have first : a = mark := (List.cons.inj same).1
      subst first
      exact absurd List.mem_cons_self left
  | a :: part, a' :: part', _, _, left, right, same => by
      obtain ⟨first, later⟩ := List.cons.inj same
      obtain ⟨samePart, sameRest⟩ := append_mark_injective
        (fun member => left (List.mem_cons_of_mem _ member))
        (fun member => right (List.mem_cons_of_mem _ member)) later
      exact ⟨by rw [first, samePart], sameRest⟩

/-- What holds of the elements of the separator and of all parts holds of the joined list. -/
theorem forall_mem_intercalate {p : α → Prop} {separator : List α} (plain : ∀ a ∈ separator, p a) :
    ∀ {parts : List (List α)}, (∀ part ∈ parts, ∀ a ∈ part, p a) →
      ∀ a ∈ separator.intercalate parts, p a
  | [], _ => by simp
  | [part], holds => by
      simpa using holds
  | part :: next :: rest, holds => by
      have later := forall_mem_intercalate plain fun part member =>
        holds part (List.mem_cons_of_mem _ member)
      rw [List.intercalate_cons_cons]
      intro a member
      rcases List.mem_append.mp member with first | afterwards
      · rcases List.mem_append.mp first with here | between
        · exact holds part List.mem_cons_self a here
        · exact plain a between
      · exact later a afterwards

/-- A joined list determines its parts. -/
theorem intercalate_injective :
    ∀ {parts parts' : List (List α)}, (∀ part ∈ parts, IsPart mark part) →
      (∀ part ∈ parts', IsPart mark part) →
      (mark :: tail).intercalate parts = (mark :: tail).intercalate parts' → parts = parts'
  | [], [], _, _, _ => rfl
  | [], [part], _, right, same => by
      simp only [List.intercalate_nil, List.intercalate_singleton] at same
      exact absurd same.symm (right part List.mem_cons_self).nonempty
  | [], part :: next :: rest, _, _, same => by
      rw [List.intercalate_cons_cons] at same
      simp at same
  | [part], [], left, _, same => by
      simp only [List.intercalate_nil, List.intercalate_singleton] at same
      exact absurd same (left part List.mem_cons_self).nonempty
  | [part], [part'], _, _, same => by
      simp only [List.intercalate_singleton] at same
      rw [same]
  | [part], part' :: next :: rest, left, _, same => by
      rw [List.intercalate_singleton, List.intercalate_cons_cons] at same
      have marked : mark ∈ part := by simp [same]
      exact absurd marked (left part List.mem_cons_self).unmarked
  | part :: next :: rest, [], _, _, same => by
      rw [List.intercalate_cons_cons] at same
      simp at same
  | part :: next :: rest, [part'], _, right, same => by
      rw [List.intercalate_singleton, List.intercalate_cons_cons] at same
      have marked : mark ∈ part' := by simp [← same]
      exact absurd marked (right part' List.mem_cons_self).unmarked
  | part :: next :: rest, part' :: next' :: rest', left, right, same => by
      rw [List.intercalate_cons_cons, List.intercalate_cons_cons, List.append_assoc,
        List.append_assoc, List.cons_append, List.cons_append] at same
      obtain ⟨rfl, later⟩ := append_mark_injective (left part List.mem_cons_self).unmarked
        (right part' List.mem_cons_self).unmarked same
      have sameRest := intercalate_injective
        (fun part member => left part (List.mem_cons_of_mem _ member))
        (fun part member => right part (List.mem_cons_of_mem _ member))
        (List.append_cancel_left later)
      rw [sameRest]

/-! ### Pieces -/

section

variable {separator : CodePoint} {t : Text}

/-- A text without the separator is one piece. -/
theorem split_eq_singleton (absent : separator ∉ t) : split separator t = [t] := by
  induction t with
  | nil => rfl
  | cons p rest ih =>
      have other : p ≠ separator := fun same => absent (same ▸ List.mem_cons_self)
      rw [split, if_neg other, ih fun member => absent (List.mem_cons_of_mem _ member)]

/-- The first piece ends where the separator first stands. -/
theorem split_append (absent : separator ∉ t) (rest : Text) :
    split separator (t ++ separator :: rest) = t :: split separator rest := by
  induction t with
  | nil => rw [List.nil_append, split, if_pos rfl]
  | cons p later ih =>
      have other : p ≠ separator := fun same => absent (same ▸ List.mem_cons_self)
      rw [List.cons_append, split, if_neg other,
        ih fun member => absent (List.mem_cons_of_mem _ member)]

end

/-! ### Two sections -/

/-- Where equal images under one function make equal images under another, so do equal lists of
images. -/
theorem map_eq_map_of_imp {β : Type v} {γ : Type w} {f : α → β} {g : α → γ} :
    ∀ {xs ys : List α}, (∀ x ∈ xs, ∀ y ∈ ys, f x = f y → g x = g y) → xs.map f = ys.map f →
      xs.map g = ys.map g
  | [], [], _, _ => rfl
  | x :: xs, y :: ys, imp, same => by
      obtain ⟨first, later⟩ := List.cons.inj same
      have sameFirst := imp x List.mem_cons_self y List.mem_cons_self first
      have sameLater := map_eq_map_of_imp (fun x member y member' =>
        imp x (List.mem_cons_of_mem _ member) y (List.mem_cons_of_mem _ member')) later
      rw [List.map_cons, List.map_cons, sameFirst, sameLater]

section

variable {β γ δ : Type} {written : β → List α} {line : γ → α} {shown : γ → δ} {P : β → Prop}
  {Q : γ → Prop}

/-- A section of parts that determine themselves and what follows them, and a section of lines of
which none begins a part: the first section ends where the first of these lines stands. -/
theorem sections_injective
    (determined : ∀ {part part' rest rest'}, P part → P part' →
      written part ++ rest = written part' ++ rest' → part = part' ∧ rest = rest')
    (apart : ∀ {part computed}, P part → Q computed →
      ∃ first later, written part = first :: later ∧ first ≠ line computed)
    (nonempty : ∀ part, written part ≠ [])
    (shows : ∀ {computed computed'}, Q computed → Q computed' → line computed = line computed' →
      shown computed = shown computed') :
    ∀ {parts parts' : List β} {lines lines' : List γ}, (∀ part ∈ parts, P part) →
      (∀ part ∈ parts', P part) → (∀ computed ∈ lines, Q computed) →
      (∀ computed ∈ lines', Q computed) →
      parts.flatMap written ++ lines.map line = parts'.flatMap written ++ lines'.map line →
      parts = parts' ∧ lines.map shown = lines'.map shown
  | [], [], _, _, _, _, left, right, same =>
      ⟨rfl, map_eq_map_of_imp (fun computed member computed' member' =>
        shows (left computed member) (right computed' member')) same⟩
  | [], part :: rest, lines, _, _, right, left, _, same => by
      rw [List.flatMap_cons, List.append_assoc] at same
      cases lines with
      | nil => exact absurd (List.append_eq_nil_iff.mp same.symm).1 (nonempty part)
      | cons computed later =>
          obtain ⟨first, _, begins, other⟩ :=
            apart (right part List.mem_cons_self) (left computed List.mem_cons_self)
          rw [begins] at same
          exact absurd (List.cons.inj same).1.symm other
  | part :: rest, [], _, lines', left, _, _, right, same => by
      rw [List.flatMap_cons, List.append_assoc] at same
      cases lines' with
      | nil => exact absurd (List.append_eq_nil_iff.mp same).1 (nonempty part)
      | cons computed later =>
          obtain ⟨first, _, begins, other⟩ :=
            apart (left part List.mem_cons_self) (right computed List.mem_cons_self)
          rw [begins] at same
          exact absurd (List.cons.inj same).1 other
  | part :: rest, part' :: rest', _, _, left, right, left', right', same => by
      rw [List.flatMap_cons, List.flatMap_cons, List.append_assoc, List.append_assoc] at same
      obtain ⟨samePart, later⟩ :=
        determined (left part List.mem_cons_self) (right part' List.mem_cons_self) same
      obtain ⟨sameRest, sameShown⟩ := sections_injective determined apart nonempty shows
        (fun part member => left part (List.mem_cons_of_mem _ member))
        (fun part member => right part (List.mem_cons_of_mem _ member)) left' right' later
      exact ⟨by rw [samePart, sameRest], sameShown⟩

end

end PrismaEsdl.Text
