import PrismaEsdl.Files.Content
import PrismaEsdl.Proofs.Text.Utf8

/-!
The text of a file, as requests give it.

Where the bytes of a file write a text, every request succeeds and gives the next code points of the
text (`Intake.exists_request`), wherever the pieces are cut: within the bytes of a character, or
between a carriage return and the line feed after it.
-/

namespace PrismaEsdl.Files

/-! ### Line ends -/

/-- The line ends of two texts are those of the whole unless one stands across the border. -/
theorem unifyLineEnds_append {t u : Text}
    (apart : t.getLast? = some (.char '\r') → u.head? ≠ some (.char '\n')) :
    unifyLineEnds (t ++ u) = unifyLineEnds t ++ unifyLineEnds u := by
  have later {p : CodePoint} {rest : Text}
      (apart : (p :: rest).getLast? = some (.char '\r') → u.head? ≠ some (.char '\n')) :
      rest.getLast? = some (.char '\r') → u.head? ≠ some (.char '\n') := fun last =>
    apart (by rw [List.getLast?_cons, last]; rfl)
  fun_induction unifyLineEnds t with
  | case1 => rfl
  | case2 rest ih =>
    rw [List.cons_append, List.cons_append, unifyLineEnds, ih (later (later apart))]
    rfl
  | case3 rest other ih =>
    rw [List.cons_append, unifyLineEnds, ih (later apart)]
    · rfl
    · intro rest' same
      cases rest with
      | nil =>
        rw [List.nil_append] at same
        subst same
        exact apart rfl rfl
      | cons p rest =>
        cases same
        exact other _ rfl
  | case4 p rest _ noReturn ih =>
    rw [List.cons_append, unifyLineEnds, ih (later apart)]
    · rfl
    · exact fun _ isReturn _ => noReturn isReturn
    · exact noReturn

theorem length_unifyLineEnds_le (t : Text) : (unifyLineEnds t).length ≤ t.length := by
  fun_induction unifyLineEnds t <;> simp only [List.length_nil, List.length_cons] <;> omega

/-- A file holds no more code points than bytes. -/
theorem length_le_of_text? {content : List UInt8} {t : Text} (decoded : text? content = some t) :
    t.length ≤ content.length := by
  obtain ⟨written, read, rfl⟩ := Option.map_eq_some_iff.mp decoded
  have fits := (Text.Utf8.bounds_of_decodeFront? (Text.Utf8.decode?_eq_some_iff.mp read)).2
  exact Nat.le_trans (length_unifyLineEnds_le written) fits

/-! ### Requests -/

namespace Intake

/-- A carriage return that waits for what follows, as a text. -/
def waiting (returned : Bool) : Text := if returned then [.char '\r'] else []

/-- A carriage return at the end of a text is put aside. -/
theorem withoutReturn_append (t : Text) :
    (withoutReturn t).1 ++ waiting (withoutReturn t).2 = t := by
  unfold withoutReturn waiting
  split
  · rename_i last
    obtain ⟨front, rfl⟩ := List.getLast?_eq_some_iff.mp last
    exact congrArg (· ++ _) List.dropLast_concat
  · exact List.append_nil t

/-- So what is kept has line ends of its own. -/
theorem unifyLineEnds_withoutReturn (t u : Text) :
    unifyLineEnds (withoutReturn t).1 ++ unifyLineEnds (waiting (withoutReturn t).2 ++ u)
      = unifyLineEnds (t ++ u) := by
  rw [← unifyLineEnds_append, ← List.append_assoc, withoutReturn_append]
  unfold withoutReturn waiting
  split
  · exact fun _ => nofun
  · rename_i noReturn
    exact fun last => absurd last noReturn

/-- Whether a text is still to be given, from what is ready and from the bytes that are left. -/
structure Holds (s : Intake) (t : Text) : Prop where
  begun : s.begun = [] ∨ Text.Utf8.isBegun s.begun = true
  later : ∃ later, Text.Utf8.decode? (s.begun ++ s.left) = some later ∧
    s.ready ++ unifyLineEnds (waiting s.returned ++ later) = t

variable {s : Intake} {t : Text}

theorem Holds.start {content : List UInt8} (decoded : text? content = some t) :
    Holds { left := content } t := by
  obtain ⟨later, read, rfl⟩ := Option.map_eq_some_iff.mp decoded
  exact ⟨.inl rfl, later, read, rfl⟩

/-- Taking a piece in changes nothing of the text. -/
theorem Holds.take (holds : Holds s t) (wanted : Nat) :
    ∃ s', s.take wanted = some s' ∧ Holds s' t ∧ s'.left = s.left.drop (s.pieceSize wanted) := by
  obtain ⟨-, later, whole, rfl⟩ := holds
  rw [← List.take_append_drop (s.pieceSize wanted) s.left, ← List.append_assoc] at whole
  obtain ⟨front, begun, back, read, read', rfl⟩ := Text.Utf8.decode?_append.mp whole
  have isFront := (Text.Utf8.bounds_of_decodeFront? read).1
  unfold Intake.take
  simp only [Option.bind_eq_bind, read, Option.bind_some, Option.pure_def]
  refine ⟨_, rfl, ⟨isFront, back, read', ?_⟩, rfl⟩
  cases front with
  | nil => simp [unifyLineEnds]
  | cons p front =>
    have decoded : (if s.returned && !(p :: front).isEmpty then .char '\r' :: p :: front
        else p :: front) = waiting s.returned ++ p :: front := by
      cases s.returned <;> rfl
    have nonempty : (waiting s.returned ++ p :: front).isEmpty = false := by
      cases s.returned <;> rfl
    simp only [decoded, nonempty, Bool.false_eq_true, if_false]
    rw [List.append_assoc, unifyLineEnds_withoutReturn, List.append_assoc]

/-- At the end of the file all of the text is ready. -/
theorem Holds.finish (holds : Holds s t) (ended : s.left = []) :
    ∃ s', s.finish = some s' ∧ Holds s' t ∧ s'.ready = t := by
  obtain ⟨begun, later, read, rfl⟩ := holds
  rw [ended, List.append_nil] at read
  have complete : s.begun = [] := begun.elim id fun begun => by
    rw [Text.Utf8.decode?_eq_some_iff, Text.Utf8.decodeFront?.eq_def, if_pos begun] at read
    exact congrArg Prod.snd (Option.some.inj read)
  rw [complete] at read
  cases read
  have ending : (if s.returned then [.char '\n'] else [] : Text)
      = unifyLineEnds (waiting s.returned ++ []) := by
    cases s.returned <;> rfl
  unfold finish
  rw [complete]
  exact ⟨_, rfl, ⟨.inl rfl, [], by rw [ended]; rfl, by rw [ending]; exact List.append_nil _⟩,
    by rw [ending]⟩

/-- What is given out is the front of the text. -/
theorem Holds.give (holds : Holds s t) (wanted : Nat)
    (enough : wanted ≤ s.ready.length ∨ s.ready = t) :
    (s.give wanted).1 = t.take wanted ∧ Holds (s.give wanted).2 (t.drop wanted) := by
  obtain ⟨begun, later, read, rfl⟩ := holds
  rcases enough with enough | all
  · refine ⟨(List.take_append_of_le_length enough).symm, begun, later, read, ?_⟩
    exact (List.drop_append_of_le_length enough).symm
  · have none := List.self_eq_append_right.mp all
    rw [none, List.append_nil]
    refine ⟨rfl, begun, later, read, ?_⟩
    exact (congrArg _ none).trans (List.append_nil _)

theorem exists_requestIn (wanted : Nat) : ∀ (pieces : Nat) {s : Intake}, Holds s t →
    s.left.length ≤ pieces →
      ∃ s', requestIn wanted pieces s = some (t.take wanted, s') ∧ Holds s' (t.drop wanted) := by
  have ending {s : Intake} (holds : Holds s t) (ended : s.left = []) :
      ∃ s', s.finish.map (give wanted) = some (t.take wanted, s') ∧ Holds s' (t.drop wanted) := by
    obtain ⟨s', finished, holds', ready⟩ := holds.finish ended
    obtain ⟨given, still⟩ := holds'.give wanted (.inr ready)
    rw [finished, Option.map_some, ← given]
    exact ⟨_, rfl, still⟩
  intro pieces
  induction pieces with
  | zero =>
    intro s holds few
    exact ending holds (List.length_eq_zero_iff.mp (Nat.le_zero.mp few))
  | succ pieces ih =>
    intro s holds few
    unfold requestIn
    split
    · rename_i enough
      obtain ⟨given, still⟩ := holds.give wanted (.inl enough)
      rw [← given]
      exact ⟨_, rfl, still⟩
    · split
      · rename_i ended
        exact ending holds (List.isEmpty_iff.mp ended)
      · rename_i more
        obtain ⟨s', taken, holds', left⟩ := holds.take (wanted - s.ready.length)
        have fewer : s'.left.length ≤ pieces := by
          rw [left, List.length_drop]
          have : leastPiece ≤ s.pieceSize (wanted - s.ready.length) := Nat.le_max_left _ _
          unfold leastPiece at this
          omega
        rw [taken]
        exact ih holds' fewer

/-- A request gives the next code points of the text. -/
theorem exists_request (holds : Holds s t) (wanted : Nat) :
    ∃ s', s.request wanted = some (t.take wanted, s') ∧ Holds s' (t.drop wanted) :=
  exists_requestIn wanted _ holds (Nat.le_refl _)

end Intake

end PrismaEsdl.Files
