import PrismaEsdl.Conversion.Placement
import PrismaEsdl.Proofs.Log.Run
import PrismaEsdl.Proofs.Prisma.Index

/-!
Where a field lands.

`Lands` says for each of the three places when a field goes there and as what, and
`outcome_placeField_eq_ok_iff` that a field is placed exactly so. How a field that cannot be placed
is refused stands in the equations for the outcomes of `placeProperty`, `placeLink` and
`placeField`.

A field that is stored needs room for its default, if that is dropped: what is dropped is shown
(`FitsDefault`).
-/

namespace PrismaEsdl.Conversion

open Prisma Esdl Log
open Outcome (Gives gives_bind_iff gives_ok gives_return_iff not_gives_error)

section

variable {stack : Stack} {models : Table Text Model} {enums : Table Text (List Text)}
variable {model target : Model} {field : Field} {placement : Placement}

/-! ### The place of a field -/

theorem isLink_eq_true_iff :
    isLink models field = true ↔ ∃ name, field.typeName? = some name ∧ name ∈ models.keys := by
  unfold isLink
  cases field.typeName? with
  | none => simp
  | some name => simp [Table.contains_iff_mem_keys]

/-- The default expression that a field has, told or not. -/
def defaultOf (enums : Table Text (List Text)) (field : Field) : Option Text :=
  field.default?.bind (defaultExpression? enums field.type)

/-- The value of the default of a field, unless it is null or has an expression. -/
def unexpressed? (field : Field) (expression : Option Text) : Option Value :=
  match field.default?, expression with
  | some .null, _ | none, _ | some _, some _ => none
  | some value, none => some value

theorem unexpressed?_eq_some_iff {expression : Option Text} {value : Value} :
    unexpressed? field expression = some value ↔
      field.default? = some value ∧ value ≠ .null ∧ expression = none := by
  unfold unexpressed?
  split
  · rename_i null
    simp +contextual [null, eq_comm]
  · rename_i absent
    simp [absent]
  · simp
  · rename_i other notNull given
    rw [given, Option.some.injEq]
    constructor
    · rintro rfl
      exact ⟨rfl, notNull, rfl⟩
    · rintro ⟨same, _, _⟩
      exact same

/-- The default of a field is its expression; a value that has none is dropped. -/
theorem pointerDefault_eq (name : Text) :
    pointerDefault stack enums name field =
      match unexpressed? field (defaultOf enums field) with
      | none => pure (defaultOf enums field)
      | some value => do
        .tell (← .ofExcept ((droppedDefault stack name field value).mapError .excessive))
        return none := by
  unfold pointerDefault unexpressed? defaultOf
  cases given : field.default? with
  | none => rfl
  | some value =>
      cases expressed : defaultExpression? enums field.type value with
      | none => cases value <;> simp [expressed]
      | some expression => cases value <;> first | cases expressed | simp [expressed]

/-- Whether there is room to show the default of a field and its type, if the default is dropped. -/
def FitsDefault (stack : Stack) (enums : Table Text (List Text)) (field : Field) : Prop :=
  ∀ value, unexpressed? field (defaultOf enums field) = some value →
    value.Fits (stack.room .droppedDefault) ∧ field.type.Fits (stack.room .droppedDefault)

theorem gives_droppedDefault_iff {name : Text} {value : Value} :
    Gives (droppedDefault stack name field value) ↔
      value.Fits (stack.room .droppedDefault) ∧ field.type.Fits (stack.room .droppedDefault) := by
  rw [← value.gives_display_iff, ← field.type.gives_display_iff]
  exact gives_bind_iff fun _ => gives_return_iff

/-- The default of a field can be dropped, if it has to be, exactly if it fits. -/
theorem outcome_pointerDefault_eq_ok_iff {name : Text} {default : Option Text} :
    (pointerDefault stack enums name field).outcome = .ok default ↔
      FitsDefault stack enums field ∧ default = defaultOf enums field := by
  rw [pointerDefault_eq, FitsDefault]
  cases left : unexpressed? field (defaultOf enums field) with
  | none => simp [eq_comm]
  | some value =>
      obtain ⟨_, _, expressionless⟩ := unexpressed?_eq_some_iff.mp left
      simp only [Option.some.injEq, forall_eq', ← @gives_droppedDefault_iff stack field name,
        expressionless]
      cases droppedDefault stack name field value with
      | error excess => exact iff_of_false nofun fun both => not_gives_error excess both.1
      | ok event =>
          rw [and_iff_right (gives_ok event)]
          constructor
          · rintro ⟨⟩
            rfl
          · rintro rfl
            rfl

/-- A field leads to the declared model that its type names; the empty name leads nowhere. -/
theorem targetOf_eq_ok_iff {name : Text} :
    targetOf stack models name field = .ok target ↔
      ∃ type, field.typeName? = some type ∧ type ≠ [] ∧ models.get? type = some target := by
  obtain ⟨obstacle, missing⟩ := missingTarget_eq_error (α := Model) stack name field
  unfold targetOf
  rw [missing]
  cases field.typeName? with
  | none => simp
  | some type =>
      cases type with
      | nil => simp
      | cons first rest =>
          cases found : models.get? (first :: rest) with
          | none => simp [found]
          | some other => simp [found]

theorem outcome_placeProperty_eq_ok_iff :
    (placeProperty stack enums model field).outcome = .ok placement ↔
      ∃ type, propertyType stack enums scalarTypes model.name field = .ok type ∧
        FitsDefault stack enums field ∧
        placement = .property (pointerOf .property type field (defaultOf enums field)) := by
  unfold placeProperty
  simp only [Run.outcome_bind_eq_ok_iff, Run.outcome_ofExcept, outcome_pointerDefault_eq_ok_iff,
    Run.outcome_pure, Except.ok.injEq]
  constructor
  · rintro ⟨type, typed, _, ⟨fits, rfl⟩, rfl⟩
    exact ⟨type, typed, fits, rfl⟩
  · rintro ⟨type, typed, fits, rfl⟩
    exact ⟨type, typed, _, ⟨fits, rfl⟩, rfl⟩

/-- A link that leads somewhere is placed by the relations of its target that lead back. -/
theorem placeLink_of_targetOf (leads : targetOf stack models model.name field = .ok target) :
    placeLink stack models enums model field =
      match target.relationsTo model.name with
      | [] => do
        let id ← .ofExcept (linkId model.name field)
        warnUndeclared model field id
        let default ← pointerDefault stack enums model.name field
        .tell (.linkMade model.name field.name target.name)
        return .link (pointerOf .link target.name field default) id
      | [inverse] => do
        .tell (.backlinkMade model.name field.name target.name inverse.name)
        return .backlink ⟨Backlink.through inverse.name target.name, field.array⟩
      | candidates => .stop (.misplaced (.ambiguousBacklink model.name field.name target.name
        (candidates.map Field.name))) := by
  have paired : pair stack models model.name field
      = .ok ⟨target.name, target.relationsTo model.name⟩ := by
    rw [pair, leads]
    rfl
  unfold placeLink
  rw [paired]
  rcases target.relationsTo model.name with _ | ⟨inverse, _ | ⟨next, others⟩⟩ <;> rfl

/-- A link that leads somewhere is stored if no relation of its target leads back, and computed
through the one that does. -/
theorem outcome_placeLink_eq_ok_iff (leads : targetOf stack models model.name field = .ok target) :
    (placeLink stack models enums model field).outcome = .ok placement ↔
      (target.relationsTo model.name = [] ∧ ∃ id, linkId model.name field = .ok id ∧
          FitsDefault stack enums field ∧
          placement = .link (pointerOf .link target.name field (defaultOf enums field)) id) ∨
        ∃ inverse, target.relationsTo model.name = [inverse] ∧
          placement = .backlink ⟨Backlink.through inverse.name target.name, field.array⟩ := by
  rw [placeLink_of_targetOf leads]
  rcases target.relationsTo model.name with _ | ⟨inverse, _ | ⟨next, others⟩⟩
  · simp only [Run.outcome_bind_eq_ok_iff, Run.outcome_ofExcept, Run.outcome_tell,
      outcome_pointerDefault_eq_ok_iff, Run.outcome_pure, Except.ok.injEq, true_and]
    constructor
    · rintro ⟨id, held, _, _, _, ⟨fits, rfl⟩, _, rfl⟩
      exact .inl ⟨id, held, fits, rfl⟩
    · rintro (⟨id, held, fits, rfl⟩ | ⟨_, ⟨⟩, _⟩)
      exact ⟨id, held, (), rfl, _, ⟨fits, rfl⟩, (), rfl⟩
  · simp only [Run.outcome_bind_eq_ok_iff, Run.outcome_tell, Run.outcome_pure, Except.ok.injEq]
    constructor
    · rintro ⟨_, _, rfl⟩
      exact .inr ⟨inverse, rfl, rfl⟩
    · rintro (⟨never, _⟩ | ⟨_, ⟨⟩, rfl⟩)
      · cases never
      · exact ⟨(), trivial, rfl⟩
  · simp

/-- A link that leads nowhere is not placed. -/
theorem placeLink_of_error {obstacle : Obstacle}
    (astray : targetOf stack models model.name field = .error obstacle) :
    placeLink stack models enums model field = .stop obstacle := by
  unfold placeLink
  rw [pair, astray]
  rfl

/-- Where a field lands, and as what. -/
inductive Lands (stack : Stack) (models : Table Text Model) (enums : Table Text (List Text))
    (model : Model) (field : Field) : Placement → Prop where
  /-- A field that is neither a link nor a relation, of a type that has a name in EdgeDB. -/
  | property {type : Text} (unlinked : isLink models field = false)
      (unrelated : field.relation? = none)
      (typed : propertyType stack enums scalarTypes model.name field = .ok type)
      (fits : FitsDefault stack enums field) :
      Lands stack models enums model field
        (.property (pointerOf .property type field (defaultOf enums field)))
  /-- A link whose target has no relation that leads back. -/
  | link {target : Model} {id : Option Text}
      (leads : targetOf stack models model.name field = .ok target)
      (alone : target.relationsTo model.name = []) (held : linkId model.name field = .ok id)
      (fits : FitsDefault stack enums field) :
      Lands stack models enums model field
        (.link (pointerOf .link target.name field (defaultOf enums field)) id)
  /-- A link whose target has one relation that leads back. -/
  | backlink {target : Model} {inverse : Field}
      (leads : targetOf stack models model.name field = .ok target)
      (paired : target.relationsTo model.name = [inverse]) :
      Lands stack models enums model field
        (.backlink ⟨Backlink.through inverse.name target.name, field.array⟩)

theorem isLink_of_targetOf {name : Text} (leads : targetOf stack models name field = .ok target) :
    isLink models field = true := by
  obtain ⟨type, typed, _, found⟩ := targetOf_eq_ok_iff.mp leads
  exact isLink_eq_true_iff.mpr
    ⟨type, typed, Table.mem_keys_of_mem_entries (Table.get?_eq_some_iff.mp found)⟩

theorem outcome_placeField_of_link (linked : isLink models field = true) :
    (placeField stack models enums model field).outcome
      = (placeLink stack models enums model field).outcome := by
  unfold placeField
  have checked : (Run.ofExcept (checkTarget stack models model.name field)).outcome = .ok () := by
    simp [checkTarget, linked]
  rw [Run.outcome_bind_of_ok checked, if_pos linked]

theorem outcome_placeField_of_not_link (unlinked : isLink models field = false) :
    (placeField stack models enums model field).outcome =
      if field.relation?.isSome = true then missingTarget stack model.name field
      else (placeProperty stack enums model field).outcome := by
  unfold placeField
  rw [Run.outcome_bind, Run.outcome_ofExcept]
  by_cases related : field.relation?.isSome = true
  · rw [if_pos related]
    simp only [checkTarget, unlinked, related, missingTarget]
    cases misplacedType stack field <;> rfl
  · simp [checkTarget, unlinked, related, Except.bind]

/-- A field is placed exactly as `Lands` says. -/
theorem outcome_placeField_eq_ok_iff :
    (placeField stack models enums model field).outcome = .ok placement ↔
      Lands stack models enums model field placement := by
  constructor
  · intro placed
    cases linked : isLink models field with
    | false =>
        rw [outcome_placeField_of_not_link linked] at placed
        split at placed
        · obtain ⟨obstacle, missing⟩ :=
            missingTarget_eq_error (α := Placement) stack model.name field
          rw [missing] at placed
          cases placed
        · rename_i unrelated
          obtain ⟨type, typed, fits, rfl⟩ := outcome_placeProperty_eq_ok_iff.mp placed
          exact .property linked (by simpa using unrelated) typed fits
    | true =>
        rw [outcome_placeField_of_link linked] at placed
        cases leads : targetOf stack models model.name field with
        | error reason =>
            rw [placeLink_of_error leads] at placed
            cases placed
        | ok target =>
            rcases (outcome_placeLink_eq_ok_iff leads).mp placed with
              ⟨alone, id, held, fits, rfl⟩ | ⟨inverse, paired, rfl⟩
            · exact .link leads alone held fits
            · exact .backlink leads paired
  · intro lands
    cases lands with
    | property unlinked unrelated typed fits =>
        rw [outcome_placeField_of_not_link unlinked, unrelated]
        exact outcome_placeProperty_eq_ok_iff.mpr ⟨_, typed, fits, rfl⟩
    | link leads alone held fits =>
        rw [outcome_placeField_of_link (isLink_of_targetOf leads)]
        exact (outcome_placeLink_eq_ok_iff leads).mpr (.inl ⟨alone, _, held, fits, rfl⟩)
    | backlink leads paired =>
        rw [outcome_placeField_of_link (isLink_of_targetOf leads)]
        exact (outcome_placeLink_eq_ok_iff leads).mpr (.inr ⟨_, paired, rfl⟩)

/-- A field that leads to a target lands as a link, stored or computed. -/
theorem Lands.of_targetOf (lands : Lands stack models enums model field placement)
    (leads : targetOf stack models model.name field = .ok target) :
    (target.relationsTo model.name = [] ∧ ∃ id, linkId model.name field = .ok id ∧
        FitsDefault stack enums field ∧
        placement = .link (pointerOf .link target.name field (defaultOf enums field)) id) ∨
      ∃ inverse, target.relationsTo model.name = [inverse] ∧
        placement = .backlink ⟨Backlink.through inverse.name target.name, field.array⟩ := by
  have placed := outcome_placeField_eq_ok_iff.mpr lands
  rw [outcome_placeField_of_link (isLink_of_targetOf leads)] at placed
  exact (outcome_placeLink_eq_ok_iff leads).mp placed

/-- A field lands in one place only. -/
theorem Lands.unique {other : Placement} (lands : Lands stack models enums model field placement)
    (lands' : Lands stack models enums model field other) : placement = other := by
  have placed := outcome_placeField_eq_ok_iff.mpr lands
  rw [outcome_placeField_eq_ok_iff.mpr lands'] at placed
  exact (Except.ok.inj placed).symm

end

end PrismaEsdl.Conversion
