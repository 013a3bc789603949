import PrismaEsdl.Log.Event

/-!
Runs: computations that tell events and may stop with an error. What was told before the stop
stays told. A run is plain data, so what it tells can be reasoned about; the monad laws hold.
-/

namespace PrismaEsdl.Log

/-- The events of a computation in order, and its outcome. -/
structure Run (ε : Type) (α : Type) where
  events : List Event
  outcome : Except ε α

namespace Run

variable {ε ε' α β : Type}

/-- One run after another; the second one is made from the value of the first. -/
def andThen (run : Run ε α) (next : α → Run ε β) : Run ε β :=
  match run.outcome with
  | .ok value => ⟨run.events ++ (next value).events, (next value).outcome⟩
  | .error error => ⟨run.events, .error error⟩

instance : Monad (Run ε) where
  pure value := ⟨[], .ok value⟩
  bind := andThen

instance : LawfulMonad (Run ε) := LawfulMonad.mk' _
  (fun run => by
    rcases run with ⟨events, _ | _⟩ <;>
      simp [Functor.map, andThen])
  (fun _ _ => by simp [pure, bind, andThen])
  (fun run _ _ => by
    rcases run with ⟨events, _ | value⟩
    · rfl
    · simp only [bind, andThen]
      split <;> simp_all)

/-- Tells one event. -/
def tell (event : Event) : Run ε Unit := ⟨[event], .ok ()⟩

/-- Tells several events. -/
def tellAll (events : List Event) : Run ε Unit := ⟨events, .ok ()⟩

/-- Stops with an error. -/
def stop (error : ε) : Run ε α := ⟨[], .error error⟩

/-- Takes over an outcome and tells nothing. -/
def ofExcept (outcome : Except ε α) : Run ε α := ⟨[], outcome⟩

/-- The same run with its error changed. -/
def mapError (f : ε → ε') (run : Run ε α) : Run ε' α := ⟨run.events, run.outcome.mapError f⟩

/-- The events at a level or above it. -/
def eventsFrom (run : Run ε α) (level : Level) : List Event :=
  run.events.filter fun event => level.rank ≤ event.level.rank

@[simp] theorem events_tell (event : Event) : (tell event : Run ε Unit).events = [event] := rfl

@[simp] theorem events_pure (value : α) : (pure value : Run ε α).events = [] := rfl

@[simp] theorem events_stop (error : ε) : (stop error : Run ε α).events = [] := rfl

@[simp] theorem outcome_pure (value : α) : (pure value : Run ε α).outcome = .ok value := rfl

@[simp] theorem outcome_stop (error : ε) : (stop error : Run ε α).outcome = .error error := rfl

theorem outcome_bind (run : Run ε α) (next : α → Run ε β) :
    (run >>= next).outcome = run.outcome.bind fun value => (next value).outcome := by
  rcases run with ⟨events, _ | value⟩ <;> rfl

end Run

end PrismaEsdl.Log
