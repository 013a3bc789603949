import Mathlib.Data.List.Forall2

/-!
Outcomes of computations that may fail, and of what goes through a list of them.

A computation in steps gives a result exactly if all steps do: `bind_eq_ok_iff` says so of two
steps, `mapM_eq_ok_iff` of one step for each member of a list, and `gives_bind_iff` and
`gives_mapM_iff` where it does not matter which result it is. Where the steps of two computations
end alike, so do the computations (`Alike`).
-/

namespace PrismaEsdl.Outcome

universe u

variable {ε : Type} {α β γ δ : Type u}

theorem bind_eq_ok_iff {outcome : Except ε α} {next : α → Except ε β} {result : β} :
    outcome >>= next = .ok result ↔ ∃ value, outcome = .ok value ∧ next value = .ok result := by
  cases outcome with
  | error reason => exact ⟨nofun, nofun⟩
  | ok value =>
      constructor
      · exact fun same => ⟨value, rfl, same⟩
      · rintro ⟨_, ⟨⟩, same⟩
        exact same

/-- A list gives results exactly if each member gives one. -/
theorem mapM_eq_ok_iff {step : α → Except ε β} {items : List α} {results : List β} :
    items.mapM step = .ok results ↔
      List.Forall₂ (fun item result => step item = .ok result) items results := by
  induction items generalizing results with
  | nil =>
      rw [List.mapM_nil, List.forall₂_nil_left_iff]
      constructor
      · rintro ⟨⟩
        rfl
      · rintro rfl
        rfl
  | cons item rest ih =>
      rw [List.mapM_cons, bind_eq_ok_iff, List.forall₂_cons_left_iff]
      constructor
      · rintro ⟨value, here, later⟩
        obtain ⟨values, others, ⟨⟩⟩ := bind_eq_ok_iff.mp later
        exact ⟨value, values, here, ih.mp others, rfl⟩
      · rintro ⟨value, values, here, others, rfl⟩
        exact ⟨value, here, bind_eq_ok_iff.mpr ⟨values, ih.mpr others, rfl⟩⟩

/-- What is read alike from paired members is read alike from the lists. -/
theorem map_eq_map_of_forall₂ {related : α → β → Prop} {f : α → γ} {g : β → γ} {items : List α}
    {others : List β} (paired : List.Forall₂ related items others)
    (same : ∀ item other, related item other → f item = g other) : items.map f = others.map g := by
  induction paired with
  | nil => rfl
  | cons here _ ih => rw [List.map_cons, List.map_cons, same _ _ here, ih]

/-- What is read of the results of a list is read of what its members give. -/
theorem map_eq_map_of_mapM {step : α → Except ε β} {items : List α} {results : List β} {f : α → γ}
    {g : β → γ} (made : items.mapM step = .ok results)
    (same : ∀ item result, step item = .ok result → f item = g result) :
    items.map f = results.map g :=
  map_eq_map_of_forall₂ (mapM_eq_ok_iff.mp made) same

/-! ### Giving some result -/

/-- Whether a computation gives a result. -/
def Gives (outcome : Except ε α) : Prop := ∃ result, outcome = .ok result

theorem gives_ok (result : α) : Gives (.ok result : Except ε α) := ⟨result, rfl⟩

theorem not_gives_error (reason : ε) : ¬ Gives (.error reason : Except ε α) := nofun

/-- If it does not depend on the first result whether the second step gives one, both steps have to
give results. -/
theorem gives_bind_iff {outcome : Except ε α} {next : α → Except ε β} {later : Prop}
    (each : ∀ value, Gives (next value) ↔ later) :
    Gives (outcome >>= next) ↔ Gives outcome ∧ later := by
  cases outcome with
  | error reason => exact iff_of_false nofun fun both => not_gives_error reason both.1
  | ok value =>
      rw [← each value]
      exact (and_iff_right (gives_ok value)).symm

theorem gives_return_iff {outcome : Except ε α} {f : α → β} :
    Gives (do return f (← outcome)) ↔ Gives outcome :=
  (gives_bind_iff fun _ => iff_of_true (gives_ok _) trivial).trans (iff_of_eq (and_true _))

theorem gives_map_iff {outcome : Except ε α} {f : α → β} :
    Gives (f <$> outcome) ↔ Gives outcome := by
  cases outcome with
  | error reason => exact iff_of_false nofun (not_gives_error reason)
  | ok value => exact iff_of_true (gives_ok _) (gives_ok value)

theorem gives_mapM_iff {step : α → Except ε β} {items : List α} :
    Gives (items.mapM step) ↔ ∀ item ∈ items, Gives (step item) := by
  induction items with
  | nil => exact iff_of_true (gives_ok []) nofun
  | cons item rest ih =>
      rw [List.mapM_cons, List.forall_mem_cons, ← ih]
      exact gives_bind_iff fun _ => gives_return_iff

/-- What is read of two results is the same, or there is neither of them. -/
theorem map_toOption_eq {f : α → β} {outcome other : Except ε α}
    (gives : Gives outcome ↔ Gives other)
    (same : ∀ value value', outcome = .ok value → other = .ok value' → f value = f value') :
    outcome.toOption.map f = other.toOption.map f := by
  cases outcome with
  | ok value =>
      obtain ⟨value', rfl⟩ := gives.mp (gives_ok value)
      exact congrArg some (same value value' rfl rfl)
  | error reason =>
      cases other with
      | ok value' => exact absurd (gives.mpr (gives_ok value')) (not_gives_error reason)
      | error reason' => rfl

/-! ### Computations that end alike -/

/-- Two computations that give related results, or fail for the same reason. -/
inductive Alike (related : α → β → Prop) : Except ε α → Except ε β → Prop
  | ok {a : α} {b : β} (results : related a b) : Alike related (.ok a) (.ok b)
  | error (reason : ε) : Alike related (.error reason) (.error reason)

namespace Alike

variable {related : α → β → Prop} {related' : γ → δ → Prop} {first : Except ε α}
  {second : Except ε β}

theorem bind {next : α → Except ε γ} {next' : β → Except ε δ} (alike : Alike related first second)
    (later : ∀ a b, related a b → Alike related' (next a) (next' b)) :
    Alike related' (first >>= next) (second >>= next') := by
  cases alike with
  | ok results => exact later _ _ results
  | error reason => exact .error reason

theorem mapM {step : α → Except ε γ} {step' : β → Except ε δ} {items : List α} {items' : List β}
    (each : List.Forall₂ (fun a b => Alike related' (step a) (step' b)) items items') :
    Alike (List.Forall₂ related') (items.mapM step) (items'.mapM step') := by
  induction each with
  | nil => exact .ok .nil
  | cons here _ ih =>
      rw [List.mapM_cons, List.mapM_cons]
      exact here.bind fun _ _ results => ih.bind fun _ _ others => .ok (.cons results others)

end Alike

end PrismaEsdl.Outcome
