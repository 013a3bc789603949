import PrismaEsdl.Log.Run

/-!
The outcomes of runs. What a run tells does not decide how it ends: telling succeeds, and a
sequence of two runs ends well exactly when both of them do (`outcome_bind_eq_ok_iff`), and with an
error exactly when the first one does or the second one after it (`outcome_bind_eq_error_iff`). A
sequence of two runs that both end well tells what they tell (`events_bind_of_ok`). The same holds
of a run that goes through a list (`Sequences`).
-/

namespace PrismaEsdl.Log.Run

variable {ε α β : Type}

@[simp] theorem outcome_tell (event : Event) : (tell event : Run ε Unit).outcome = .ok () := rfl

@[simp] theorem outcome_tellAll (events : List Event) :
    (tellAll events : Run ε Unit).outcome = .ok () := rfl

@[simp] theorem outcome_ofExcept (outcome : Except ε α) : (ofExcept outcome).outcome = outcome :=
  rfl

theorem ofExcept_ok (value : α) : (ofExcept (.ok value) : Run ε α) = pure value := rfl

/-- A sequence of two runs ends well exactly when both of them do. -/
theorem outcome_bind_eq_ok_iff {run : Run ε α} {next : α → Run ε β} {result : β} :
    (run >>= next).outcome = .ok result ↔
      ∃ value, run.outcome = .ok value ∧ (next value).outcome = .ok result := by
  rw [outcome_bind]
  cases run.outcome with
  | error reason => simp [Except.bind]
  | ok value => simp [Except.bind]

/-- A sequence of two runs ends with an error exactly when the first one does, or the second one
after the first has ended well. -/
theorem outcome_bind_eq_error_iff {run : Run ε α} {next : α → Run ε β} {error : ε} :
    (run >>= next).outcome = .error error ↔
      run.outcome = .error error ∨
        ∃ value, run.outcome = .ok value ∧ (next value).outcome = .error error := by
  rw [outcome_bind]
  cases run.outcome with
  | error reason => simp [Except.bind]
  | ok value => simp [Except.bind]

/-- A run that goes on after one that ends well ends as what it goes on with. -/
theorem outcome_bind_of_ok {run : Run ε α} {value : α} (good : run.outcome = .ok value)
    (next : α → Run ε β) : (run >>= next).outcome = (next value).outcome := by
  rw [outcome_bind, good]
  rfl

/-- It tells what that tells after what the first one tells. -/
theorem events_bind_of_ok {run : Run ε α} {value : α} (good : run.outcome = .ok value)
    (next : α → Run ε β) : (run >>= next).events = run.events ++ (next value).events := by
  obtain ⟨events, outcome⟩ := run
  cases good
  rfl

/-- Changing the error of a run leaves its good end. -/
@[simp] theorem outcome_mapError_eq_ok_iff {ε' : Type} {run : Run ε α} {f : ε → ε'} {value : α} :
    (run.mapError f).outcome = .ok value ↔ run.outcome = .ok value := by
  obtain ⟨events, outcome⟩ := run
  cases outcome with
  | error reason => exact ⟨nofun, nofun⟩
  | ok result =>
      constructor
      · rintro ⟨⟩
        rfl
      · rintro ⟨⟩
        rfl

/-! ### Going through a list -/

/-- A run that goes through a list, in a step for each member, and takes up what the steps give. -/
structure Sequences {σ : Type} (go : List α → σ → Run ε σ) (step : α → Run ε β)
    (takeUp : σ → α → β → σ) : Prop where
  nil : ∀ state, go [] state = pure state
  cons : ∀ item rest state,
    go (item :: rest) state = step item >>= fun value => go rest (takeUp state item value)

namespace Sequences

variable {σ : Type} {go : List α → σ → Run ε σ} {step : α → Run ε β} {takeUp : σ → α → β → σ}
  (sequence : Sequences go step takeUp)

include sequence

/-- It ends well exactly if all steps do. -/
theorem ends_well_iff : ∀ (items : List α) (state : σ),
    (∃ result, (go items state).outcome = .ok result) ↔
      ∀ item ∈ items, ∃ value, (step item).outcome = .ok value
  | [], state => by simp [sequence.nil]
  | item :: rest, state => by
      rw [sequence.cons, List.forall_mem_cons]
      constructor
      · rintro ⟨result, outcome⟩
        obtain ⟨value, here, later⟩ := outcome_bind_eq_ok_iff.mp outcome
        exact ⟨⟨value, here⟩, (ends_well_iff rest _).mp ⟨result, later⟩⟩
      · rintro ⟨⟨value, here⟩, others⟩
        obtain ⟨result, later⟩ := (ends_well_iff rest (takeUp state item value)).mpr others
        exact ⟨result, outcome_bind_eq_ok_iff.mpr ⟨value, here, later⟩⟩

/-- If all steps end well, it tells what they tell. -/
theorem events_eq : ∀ {items : List α} (state : σ),
    (∀ item ∈ items, ∃ value, (step item).outcome = .ok value) →
      (go items state).events = items.flatMap fun item => (step item).events
  | [], state, _ => by simp [sequence.nil]
  | item :: rest, state, good => by
      obtain ⟨⟨value, here⟩, others⟩ := List.forall_mem_cons.mp good
      rw [sequence.cons, events_bind_of_ok here, events_eq _ others, List.flatMap_cons]

end Sequences

end PrismaEsdl.Log.Run
