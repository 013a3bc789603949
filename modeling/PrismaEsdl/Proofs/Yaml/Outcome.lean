import PrismaEsdl.Yaml.Token

/-!
Outcomes of steps that change a state and may stop with a fault.

An outcome is told by the fault, if there is one, and else by what is true of the result and of the
state after it (`Ends`). Of two steps in a row the first fault counts (`Ends.bind`).
-/

namespace PrismaEsdl.Yaml

/-- Whether steps stop with a fault, if there is one, and give something good otherwise. -/
def Ends {α σ : Type} (outcome : Except Fault (α × σ)) (fault : Option Fault)
    (good : α → σ → Prop) : Prop :=
  match fault with
  | some fault => outcome = .error fault
  | none => ∃ a s, outcome = .ok (a, s) ∧ good a s

namespace Ends

variable {α β σ : Type} {x : StateT σ (Except Fault) α} {f : α → StateT σ (Except Fault) β}
  {s : σ} {a : α} {fault fault' : Option Fault} {good : α → σ → Prop} {good' : β → σ → Prop}

theorem pure (is_good : good a s) :
    Ends ((Pure.pure a : StateT σ (Except Fault) α).run s) none good :=
  ⟨a, s, rfl, is_good⟩

theorem mono {outcome : Except Fault (α × σ)} {better : α → σ → Prop}
    (ends : Ends outcome fault better) (weaker : ∀ a s, better a s → good a s) :
    Ends outcome fault good := by
  cases fault with
  | some fault => exact ends
  | none =>
    obtain ⟨a, s, same, is_better⟩ := ends
    exact ⟨a, s, same, weaker a s is_better⟩

/-- Of two faults the first one counts. -/
theorem bind (first : Ends (x.run s) fault good)
    (next : ∀ a s', good a s' → Ends ((f a).run s') fault' good') :
    Ends ((x >>= f).run s) (fault.or fault') good' := by
  rw [StateT.run_bind]
  cases fault with
  | some fault =>
    rw [show x.run s = .error fault from first]
    rfl
  | none =>
    obtain ⟨a, s', run_eq, is_good⟩ := first
    rw [run_eq]
    exact next a s' is_good

theorem map {f : α → β} (ends : Ends (x.run s) fault good)
    (next : ∀ a s', good a s' → good' (f a) s') : Ends ((f <$> x).run s) fault good' := by
  have two := ends.bind fun a s' is_good => Ends.pure (next a s' is_good)
  rwa [Option.or_none] at two

end Ends

end PrismaEsdl.Yaml
