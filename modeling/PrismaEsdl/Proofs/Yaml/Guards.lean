import PrismaEsdl.Yaml.Cursor

/-!
What may stop steps that change a state.

Steps guard something that is true of the state if it is true after them as well, unless they stop
with a fault, and then the fault is one of some kind (`Guards`). Two steps in a row guard what both
of them do (`Guards.bind`), and so do steps that go through a list. An outcome without a state is
said to ensure something (`Ensures`).
-/

namespace PrismaEsdl.Yaml

/-- Whether a fault is one of the form of a text: it does not follow the grammar, or goes too
deep. -/
def Fault.IsOfForm (fault : Fault) : Prop := fault = .malformed ∨ fault = .tooDeep

/-- Whether an outcome is good, or else a fault of some kind. -/
def Ensures {α : Type} (blamed : Fault → Prop) (good : α → Prop) : Except Fault α → Prop
  | .ok a => good a
  | .error fault => blamed fault

namespace Ensures

variable {α β : Type} {blamed : Fault → Prop} {good : α → Prop} {good' : β → Prop}

theorem bind {outcome : Except Fault α} {next : α → Except Fault β}
    (first : Ensures blamed good outcome) (then' : ∀ a, good a → Ensures blamed good' (next a)) :
    Ensures blamed good' (outcome >>= next) := by
  cases outcome with
  | error fault => exact first
  | ok a => exact then' a first

theorem mono {better : α → Prop} {outcome : Except Fault α}
    (ensures : Ensures blamed better outcome) (weaker : ∀ a, better a → good a) :
    Ensures blamed good outcome := by
  cases outcome with
  | error fault => exact ensures
  | ok a => exact weaker a ensures

theorem blame {blamed' : Fault → Prop} {outcome : Except Fault α}
    (ensures : Ensures blamed good outcome) (more : ∀ fault, blamed fault → blamed' fault) :
    Ensures blamed' good outcome := by
  cases outcome with
  | error fault => exact more fault ensures
  | ok a => exact ensures

theorem foldlM {f : β → α → Except Fault β} {items : List α}
    (each : ∀ item ∈ items, ∀ b, good' b → Ensures blamed good' (f b item)) :
    ∀ b, good' b → Ensures blamed good' (items.foldlM f b) := by
  induction items with
  | nil => exact fun _ holds => holds
  | cons item rest ih =>
    intro b holds
    rw [List.foldlM_cons]
    exact (each item (.head _) b holds).bind
      (ih fun other member => each other (.tail _ member))

end Ensures

/-- Whether steps keep something true of the state, and stop with faults of some kind only. -/
def Guards {α σ : Type} (blamed : Fault → Prop) (kept : σ → Prop)
    (x : StateT σ (Except Fault) α) : Prop :=
  ∀ s, kept s → Ensures blamed (fun ended => kept ended.2) (x.run s)

namespace Guards

variable {α β σ : Type} {kept : σ → Prop} {blamed : Fault → Prop}
  {x : StateT σ (Except Fault) α} {f : α → StateT σ (Except Fault) β}

theorem pure (a : α) : Guards blamed kept (Pure.pure a : StateT σ (Except Fault) α) :=
  fun _ holds => holds

theorem throw {fault : Fault} (isBlamed : blamed fault) :
    Guards blamed kept (MonadExcept.throw fault : StateT σ (Except Fault) α) :=
  fun _ _ => isBlamed

theorem throw_bind {fault : Fault} (isBlamed : blamed fault) :
    Guards blamed kept ((MonadExcept.throw fault : StateT σ (Except Fault) α) >>= f) :=
  fun _ _ => isBlamed

theorem bind (first : Guards blamed kept x) (next : ∀ a, Guards blamed kept (f a)) :
    Guards blamed kept (x >>= f) := by
  intro s holds
  rw [StateT.run_bind]
  exact (first s holds).bind fun ended => next ended.1 ended.2

theorem ite {condition : Prop} [Decidable condition] {y : StateT σ (Except Fault) α}
    (first : Guards blamed kept x) (second : Guards blamed kept y) :
    Guards blamed kept (if condition then x else y) := by
  split
  · exact first
  · exact second

theorem get_bind {f : σ → StateT σ (Except Fault) β}
    (next : ∀ s, kept s → Guards blamed kept (f s)) : Guards blamed kept (get >>= f) :=
  fun s holds => next s holds s holds

theorem modify {change : σ → σ} (keeps : ∀ s, kept s → kept (change s)) :
    Guards blamed kept (modify change : StateT σ (Except Fault) PUnit) :=
  fun s holds => keeps s holds

theorem modifyGet {change : σ → α × σ} (keeps : ∀ s, kept s → kept (change s).2) :
    Guards blamed kept (modifyGet change : StateT σ (Except Fault) α) :=
  fun s holds => keeps s holds

theorem set {s : σ} (holds : kept s) :
    Guards blamed kept (MonadStateOf.set s : StateT σ (Except Fault) PUnit) :=
  fun _ _ => holds

/-- An outcome that does not depend on the state. -/
theorem lift_bind {good : α → Prop} {outcome : Except Fault α}
    (ensures : Ensures blamed good outcome)
    (next : ∀ a, good a → Guards blamed kept (f a)) :
    Guards blamed kept ((liftM outcome : StateT σ (Except Fault) α) >>= f) := by
  cases outcome with
  | error fault => exact fun _ _ => ensures
  | ok a => exact next a ensures

theorem lift {good : α → Prop} {outcome : Except Fault α} (ensures : Ensures blamed good outcome) :
    Guards blamed kept (liftM outcome : StateT σ (Except Fault) α) := by
  cases outcome with
  | error fault => exact fun _ _ => ensures
  | ok a => exact pure a

theorem map {f : α → β} (guards : Guards blamed kept x) : Guards blamed kept (f <$> x) := by
  rw [map_eq_pure_bind]
  exact guards.bind fun a => pure (f a)

theorem mapM {f : α → StateT σ (Except Fault) β} (each : ∀ a, Guards blamed kept (f a)) :
    ∀ items : List α, Guards blamed kept (items.mapM f)
  | [] => pure []
  | item :: rest => by
    rw [List.mapM_cons]
    exact (each item).bind fun b => (mapM each rest).bind fun others => pure (b :: others)

theorem foldlM {f : β → α → StateT σ (Except Fault) β}
    (each : ∀ b a, Guards blamed kept (f b a)) :
    ∀ (items : List α) (b : β), Guards blamed kept (items.foldlM f b)
  | [], b => pure b
  | item :: rest, b => by
    rw [List.foldlM_cons]
    exact (each b item).bind fun b' => foldlM each rest b'

end Guards

end PrismaEsdl.Yaml
