import PrismaEsdl.Program
import PrismaEsdl.Proofs.Conversion.Success

/-!
The faults of fields.

`ruledFault?` says by rules whether a field can be placed and why not, in the order in which one
reason hides another. Two things are not among the rules: the empty name leads to no model, also
where a model of that name is declared, and a default that is dropped has to be shown. `fault?` has
both of them. A field is refused exactly with its fault (`outcome_placeField_eq_error_iff`), fields
and models are refused with the first fault among them, and so a schema with an index is converted
exactly when none of its fields has a fault, and refused with the first one otherwise; without an
index nothing is converted at all (`first_fault_decides`). The rules alone do not decide
(`not_ruled_faults_decide`).
-/

namespace PrismaEsdl.Conversion

open Prisma Esdl Log
open Outcome (Gives)

/-- The obstacle of a field that has no place, where the reason names the type as it is shown. -/
def misplaced (stack : Stack) (field : Field) (reason : Text → PlacementError) : Obstacle :=
  match misplacedType stack field with
  | .ok shown => .misplaced (reason shown)
  | .error obstacle => obstacle

/-- The fault of a field whose type names no declared model. -/
def strayFault? (stack : Stack) (enums : Table Text (List Text)) (model : Text) (field : Field) :
    Option Obstacle :=
  if field.relation?.isSome then
    some (misplaced stack field (.missingRelationTarget model field.name))
  else match field.type with
    | .call _ _ => some (misplaced stack field (.callType model field.name))
    | .named name =>
      if enums.contains name || scalarTypes.contains name then none
      else some (.misplaced (.unknownScalar model field.name name))

/-- The fault of a field whose type names a declared model. With one relation that leads back
there is none, whatever the relation of the field says. -/
def linkFault? (model : Text) (field : Field) (target : Model) : Option Obstacle :=
  match target.relationsTo model with
  | [] =>
    match field.relation?.bind Relation.fields with
    | none | some [] | some [_] => none
    | some ids => some (.misplaced (.compositeKey model field.name ids))
  | [_] => none
  | candidates =>
    some (.misplaced (.ambiguousBacklink model field.name target.name
      (candidates.map Field.name)))

section

variable (stack : Stack) (models : Table Text Model) (enums : Table Text (List Text))
  (model : Model) (field : Field)

/-- The declared model that the type of a field names. -/
def namedModel? : Option Model := field.typeName?.bind models.get?

/-- The fault of a field by its type: one rule where it names a declared model, one where it does
not. -/
def ruledFault? : Option Obstacle :=
  match namedModel? models field with
  | some target => linkFault? model.name field target
  | none => strayFault? stack enums model.name field

/-- The fault of a default that is dropped and cannot be shown. -/
def defaultFault? : Option Obstacle :=
  match unexpressed? field (defaultOf enums field) with
  | none => none
  | some value =>
    match droppedDefault stack model.name field value with
    | .ok _ => none
    | .error excess => some (.excessive excess)

/-- Whether a field is computed: one relation of the model that it names leads back. -/
def isComputed : Bool :=
  (namedModel? models field).any fun target => (target.relationsTo model.name).length == 1

/-- The fault of a field. A declared model with the empty name is no target, and the default of a
field that is stored is looked at last. -/
def fault? : Option Obstacle :=
  if field.typeName? = some [] ∧ models.contains [] then
    some (.misplaced (.missingRelationTarget model.name field.name []))
  else
    (ruledFault? stack models enums model field).or
      (if isComputed models model field then none else defaultFault? stack enums model field)

/-- The faults of the fields of models, by the models and by the fields of each, in order. -/
def faults : List Obstacle :=
  models.contents.flatMap fun model =>
    model.fields.contents.filterMap (fault? stack models enums model)

end

section

variable {stack : Stack} {models : Table Text Model} {enums : Table Text (List Text)}
  {model target : Model} {field : Field} {obstacle : Obstacle} {error : PlacementError}

/-! ### The fault of one field -/

theorem missingTarget_eq {α : Type} {name : Text} :
    (missingTarget stack name field : Except Obstacle α)
      = .error (misplaced stack field (.missingRelationTarget name field.name)) := by
  unfold missingTarget misplaced
  cases misplacedType stack field <;> rfl

/-- An obstacle that is a misplaced field is there for the given reason. -/
theorem misplaced_eq_misplaced {reason : Text → PlacementError}
    (same : misplaced stack field reason = .misplaced error) : ∃ shown, error = reason shown := by
  unfold misplaced misplacedType at same
  cases shown : field.type.display (stack.room .misplacedType) with
  | error excess =>
      rw [shown] at same
      cases same
  | ok type =>
      rw [shown] at same
      cases same
      exact ⟨type, rfl⟩

theorem strayFault?_names
    (faulty : strayFault? stack enums model.name field = some (.misplaced error)) :
    error.model = model.name ∧ error.field = field.name := by
  unfold strayFault? at faulty
  split at faulty
  · obtain ⟨_, rfl⟩ := misplaced_eq_misplaced (Option.some.inj faulty)
    exact ⟨rfl, rfl⟩
  · split at faulty
    · obtain ⟨_, rfl⟩ := misplaced_eq_misplaced (Option.some.inj faulty)
      exact ⟨rfl, rfl⟩
    · split at faulty
      · cases faulty
      · cases faulty
        exact ⟨rfl, rfl⟩

theorem linkFault?_names (faulty : linkFault? model.name field target = some (.misplaced error)) :
    error.model = model.name ∧ error.field = field.name := by
  unfold linkFault? at faulty
  split at faulty
  · split at faulty
    · cases faulty
    · cases faulty
    · cases faulty
    · cases faulty
      exact ⟨rfl, rfl⟩
  · cases faulty
  · cases faulty
    exact ⟨rfl, rfl⟩

theorem defaultFault?_ne_misplaced :
    defaultFault? stack enums model field ≠ some (.misplaced error) := by
  unfold defaultFault?
  split
  · exact nofun
  · split <;> exact nofun

/-- A fault carries the names of its model and its field. -/
theorem fault?_names (faulty : fault? stack models enums model field = some (.misplaced error)) :
    error.model = model.name ∧ error.field = field.name := by
  unfold fault? at faulty
  split at faulty
  · cases faulty
    exact ⟨rfl, rfl⟩
  · rcases Option.or_eq_some_iff.mp faulty with ruled | ⟨_, dropped⟩
    · unfold ruledFault? at ruled
      split at ruled
      · exact linkFault?_names ruled
      · exact strayFault?_names ruled
    · split at dropped
      · cases dropped
      · exact absurd dropped defaultFault?_ne_misplaced

/-- A dropped default that fits is no fault. -/
theorem defaultFault?_eq_none (fits : FitsDefault stack enums field) :
    defaultFault? stack enums model field = none := by
  unfold defaultFault?
  split
  · rfl
  · rename_i value left
    obtain ⟨event, made⟩ : Gives (droppedDefault stack model.name field value) :=
      gives_droppedDefault_iff.mpr (fits value left)
    rw [made]

/-- The rules say all of a field whose type has a name and whose default needs not be shown. -/
theorem fault?_eq_ruledFault? (named : field.typeName? = some [] → [] ∉ models.keys)
    (fits : FitsDefault stack enums field) :
    fault? stack models enums model field = ruledFault? stack models enums model field := by
  have other : ¬ (field.typeName? = some [] ∧ models.contains [] = true) :=
    fun ⟨typed, known⟩ => named typed (Table.contains_iff_mem_keys.mp known)
  rw [fault?, if_neg other, defaultFault?_eq_none fits, ite_self, Option.or_none]

theorem outcome_pointerDefault_eq_error_iff :
    (pointerDefault stack enums model.name field).outcome = .error obstacle ↔
      defaultFault? stack enums model field = some obstacle := by
  rw [pointerDefault_eq, defaultFault?]
  cases unexpressed? field (defaultOf enums field) with
  | none => exact iff_of_false nofun nofun
  | some value =>
      cases dropped : droppedDefault stack model.name field value with
      | ok event =>
          simp only [dropped]
          exact iff_of_false nofun nofun
      | error excess =>
          simp only [dropped]
          constructor
          · rintro ⟨⟩
            rfl
          · rintro ⟨⟩
            rfl

/-- A property without relation has no type exactly if it has a stray fault. -/
theorem propertyType_eq_error_iff (unrelated : ¬ field.relation?.isSome = true) :
    propertyType stack enums scalarTypes model.name field = .error obstacle ↔
      strayFault? stack enums model.name field = some obstacle := by
  unfold propertyType strayFault?
  rw [if_neg unrelated]
  cases field.type with
  | call name arguments =>
      unfold misplaced
      cases misplacedType stack field with
      | error reason => simp [bind, Except.bind]
      | ok shown => simp [bind, Except.bind, throw, throwThe, MonadExceptOf.throw]
  | named name =>
      by_cases enumerated : enums.contains name = true
      · simp [enumerated]
      · cases found : scalarTypes.get? name with
        | none =>
            have unknown : ¬ scalarTypes.contains name = true :=
              fun known => Table.get?_eq_none_iff.mp found (Table.contains_iff_mem_keys.mp known)
            simp [enumerated, found, unknown]
        | some type =>
            have known : scalarTypes.contains name = true := Table.contains_iff_mem_keys.mpr
              (Table.mem_keys_of_mem_entries (Table.get?_eq_some_iff.mp found))
            simp [enumerated, found, known]

/-- A property without relation is refused with its stray fault, or with that of its default. -/
theorem outcome_placeProperty_eq_error_iff (unrelated : ¬ field.relation?.isSome = true) :
    (placeProperty stack enums model field).outcome = .error obstacle ↔
      (strayFault? stack enums model.name field).or (defaultFault? stack enums model field)
        = some obstacle := by
  unfold placeProperty
  simp only [Run.outcome_bind_eq_error_iff, Run.outcome_ofExcept,
    outcome_pointerDefault_eq_error_iff, Run.outcome_pure, reduceCtorEq, and_false, exists_false,
    or_false]
  have faulty : ∀ reason, propertyType stack enums scalarTypes model.name field = .error reason ↔
      strayFault? stack enums model.name field = some reason :=
    fun reason => propertyType_eq_error_iff unrelated
  cases typed : propertyType stack enums scalarTypes model.name field with
  | error reason =>
      rw [(faulty reason).mp typed]
      simp
  | ok type =>
      have faultless : strayFault? stack enums model.name field = none := by
        rw [Option.eq_none_iff_forall_ne_some]
        intro reason stray
        rw [(faulty reason).mpr stray] at typed
        cases typed
      rw [faultless]
      simp

/-- A link that leads to a target is refused with its link fault, or with that of its default if it
is stored. -/
theorem outcome_placeLink_eq_error_iff
    (leads : targetOf stack models model.name field = .ok target) :
    (placeLink stack models enums model field).outcome = .error obstacle ↔
      (linkFault? model.name field target).or
          (if (target.relationsTo model.name).length = 1 then none
            else defaultFault? stack enums model field)
        = some obstacle := by
  rw [placeLink_of_targetOf leads]
  unfold linkFault?
  rcases target.relationsTo model.name with _ | ⟨inverse, _ | ⟨next, others⟩⟩
  · simp only [Run.outcome_bind_eq_error_iff, Run.outcome_ofExcept,
      outcome_pointerDefault_eq_error_iff, Run.outcome_pure, reduceCtorEq, and_false, exists_false,
      or_false]
    unfold linkId
    rcases field.relation?.bind Relation.fields with _ | (_ | ⟨id, _ | ⟨second, rest⟩⟩) <;>
      simp [warnUndeclared]
  · constructor
    · rintro ⟨⟩
    · rintro ⟨⟩
  · simp

/-- A field that is no link names no declared model, nor does its type have the empty name of
one. -/
theorem fault?_of_not_link (unlinked : isLink models field = false) :
    fault? stack models enums model field
      = (strayFault? stack enums model.name field).or (defaultFault? stack enums model field) := by
  have undeclared : ∀ name, field.typeName? = some name → name ∉ models.keys := by
    intro name typed known
    rw [isLink_eq_true_iff.mpr ⟨name, typed, known⟩] at unlinked
    cases unlinked
  have named : ¬ (field.typeName? = some [] ∧ models.contains [] = true) :=
    fun ⟨typed, known⟩ => undeclared [] typed (Table.contains_iff_mem_keys.mp known)
  have unnamed : namedModel? models field = none := by
    unfold namedModel?
    cases typed : field.typeName? with
    | none => rfl
    | some name => exact Table.get?_eq_none_iff.mpr (undeclared name typed)
  simp [fault?, named, ruledFault?, isComputed, unnamed]

/-- A link that leads to a target has the fault that the target decides, or that of its default. -/
theorem fault?_of_targetOf (leads : targetOf stack models model.name field = .ok target) :
    fault? stack models enums model field
      = (linkFault? model.name field target).or
          (if (target.relationsTo model.name).length = 1 then none
            else defaultFault? stack enums model field) := by
  obtain ⟨name, typed, nonempty, found⟩ := targetOf_eq_ok_iff.mp leads
  have named : ¬ (field.typeName? = some [] ∧ models.contains [] = true) := by
    rintro ⟨empty, _⟩
    exact nonempty (Option.some.inj (typed.symm.trans empty))
  have known : namedModel? models field = some target := by
    rw [namedModel?, typed, Option.bind_some, found]
  simp [fault?, named, ruledFault?, isComputed, known]

/-- A link that leads nowhere has the empty name for its type, and that is its fault. -/
theorem fault?_of_targetOf_error (linked : isLink models field = true)
    (astray : targetOf stack models model.name field = .error obstacle) :
    fault? stack models enums model field = some obstacle := by
  obtain ⟨name, typed, known⟩ := isLink_eq_true_iff.mp linked
  obtain ⟨target, recorded⟩ := Table.exists_content_of_mem_keys known
  by_cases empty : name = []
  · subst empty
    rw [fault?, if_pos ⟨typed, Table.contains_iff_mem_keys.mpr known⟩]
    have shown : field.type.display (stack.room .misplacedType) = .ok [] := by
      unfold Field.typeName? at typed
      cases type : field.type with
      | call _ _ =>
          rw [type] at typed
          cases typed
      | named other =>
          rw [type] at typed
          cases typed
          rfl
    unfold targetOf missingTarget misplacedType at astray
    rw [typed, shown] at astray
    cases astray
    rfl
  · rw [targetOf_eq_ok_iff.mpr ⟨name, typed, empty, Table.get?_eq_some_iff.mpr recorded⟩] at astray
    cases astray

/-- A field is refused exactly with its fault. -/
theorem outcome_placeField_eq_error_iff :
    (placeField stack models enums model field).outcome = .error obstacle ↔
      fault? stack models enums model field = some obstacle := by
  cases linked : isLink models field with
  | false =>
      rw [outcome_placeField_of_not_link linked, fault?_of_not_link linked]
      by_cases related : field.relation?.isSome = true
      · rw [if_pos related, missingTarget_eq]
        simp [strayFault?, related]
      · rw [if_neg related]
        exact outcome_placeProperty_eq_error_iff related
  | true =>
      rw [outcome_placeField_of_link linked]
      cases leads : targetOf stack models model.name field with
      | error reason =>
          rw [placeLink_of_error leads, fault?_of_targetOf_error linked leads]
          simp
      | ok target => rw [outcome_placeLink_eq_error_iff leads, fault?_of_targetOf leads]

/-! ### The first fault -/

/-- Fields that are placed one after the other are refused with the first fault among them. -/
theorem outcome_placeFields_eq_error_iff {fields : List Field} {type : ObjectType} :
    (placeFields stack models enums model fields type).outcome = .error obstacle ↔
      (fields.filterMap (fault? stack models enums model)).head? = some obstacle := by
  induction fields generalizing type with
  | nil => simp [placeFields]
  | cons field rest ih =>
      rw [placeFields, Run.outcome_bind_eq_error_iff, outcome_placeField_eq_error_iff]
      cases faulty : fault? stack models enums model field with
      | none =>
          rw [List.filterMap_cons_none faulty]
          cases placed : (placeField stack models enums model field).outcome with
          | error reason =>
              rw [outcome_placeField_eq_error_iff, faulty] at placed
              cases placed
          | ok placement => simp [ih]
      | some reason =>
          rw [List.filterMap_cons_some faulty, outcome_placeField_eq_error_iff.mpr faulty]
          simp

/-- Object types that are made one after the other are refused with the first fault among the
fields of their models. -/
theorem outcome_objectTypes_eq_error_iff {declared : List Model} {types : Table Text ObjectType} :
    (objectTypes stack models enums declared types).outcome = .error obstacle ↔
      (declared.flatMap fun model =>
        model.fields.contents.filterMap (fault? stack models enums model)).head?
          = some obstacle := by
  induction declared generalizing types with
  | nil => simp [objectTypes]
  | cons model rest ih =>
      rw [objectTypes, Run.outcome_bind_eq_error_iff, objectType,
        outcome_placeFields_eq_error_iff, List.flatMap_cons, List.head?_append]
      cases first : (model.fields.contents.filterMap (fault? stack models enums model)).head? with
      | none =>
          cases made : (placeFields stack models enums model model.fields.contents {}).outcome with
          | error reason =>
              rw [outcome_placeFields_eq_error_iff, first] at made
              cases made
          | ok type => simp [ih]
      | some reason =>
          rw [outcome_placeFields_eq_error_iff.mpr first]
          simp

end

section

variable {stack : Stack} {schema : Prisma.Schema} {models : Table Text Model}
  (indexed : schema.models stack = .ok models)

include indexed

theorem outcome_convert_eq_error_iff {obstacle : Obstacle} :
    (convert stack schema).outcome = .error obstacle ↔
      (faults stack models schema.enums).head? = some obstacle := by
  rw [convert_of_models indexed]
  simp only [Run.outcome_bind_eq_error_iff, Run.outcome_tell, Run.outcome_tellAll,
    Run.outcome_pure, outcome_objectTypes_eq_error_iff, faults]
  simp

/-- A schema with an index is converted exactly when no field of its models has a fault. -/
theorem converts_iff_faultless :
    (∃ result, (convert stack schema).outcome = .ok result) ↔
      ∀ model ∈ models.contents, ∀ field ∈ model.fields.contents,
        fault? stack models schema.enums model field = none := by
  have faultless : faults stack models schema.enums = [] ↔
      ∀ model ∈ models.contents, ∀ field ∈ model.fields.contents,
        fault? stack models schema.enums model field = none := by
    simp [faults, List.flatMap_eq_nil_iff, List.filterMap_eq_nil_iff]
  rw [← faultless]
  constructor
  · rintro ⟨result, converted⟩
    cases found : faults stack models schema.enums with
    | nil => rfl
    | cons obstacle rest =>
        have refused : (convert stack schema).outcome = .error obstacle := by
          rw [outcome_convert_eq_error_iff indexed, found]
          rfl
        rw [converted] at refused
        cases refused
  · intro none
    cases outcome : (convert stack schema).outcome with
    | ok result => exact ⟨result, rfl⟩
    | error obstacle =>
        rw [outcome_convert_eq_error_iff indexed, none] at outcome
        cases outcome

end

end PrismaEsdl.Conversion

namespace PrismaEsdl.Program

open Prisma Log
open Conversion (FitsDefault fault? faults ruledFault?)

/-- The program converts a schema exactly when it has an index and no field of its models has a
fault. Otherwise it reports the first fault, by models and by the fields of each in index order, and
a fault that is a misplaced field carries the names of its model and its field. The faults are those
of the rules, apart from the empty name of a declared model, which is no target, and from a default
that is dropped and does not fit. -/
theorem first_fault_decides (stack : Stack) (schema : Prisma.Schema) :
    (∀ excess, schema.models stack = .error excess →
      (convert stack schema).outcome = .error (.excessive excess)) ∧
    ∀ models, schema.models stack = .ok models →
      ((∃ result, (convert stack schema).outcome = .ok result) ↔
        ∀ model ∈ models.contents, ∀ field ∈ model.fields.contents,
          fault? stack models schema.enums model field = none) ∧
      (∀ failure, (convert stack schema).outcome = .error failure ↔
        ∃ obstacle, (faults stack models schema.enums).head? = some obstacle ∧
          failure = .ofObstacle obstacle) ∧
      (∀ model field error,
        fault? stack models schema.enums model field = some (.misplaced error) →
          error.model = model.name ∧ error.field = field.name) ∧
      ∀ model field, (field.typeName? = some [] → [] ∉ models.keys) →
        FitsDefault stack schema.enums field →
          fault? stack models schema.enums model field
            = ruledFault? stack models schema.enums model field := by
  constructor
  · intro excess exceeds
    rw [convert, Conversion.convert_of_excess exceeds]
    rfl
  · intro models indexed
    refine ⟨?_, ?_, fun model field error => Conversion.fault?_names,
      fun model field => Conversion.fault?_eq_ruledFault?⟩
    · simp only [convert, Run.outcome_mapError_eq_ok_iff]
      exact Conversion.converts_iff_faultless indexed
    · intro failure
      simp only [← Conversion.outcome_convert_eq_error_iff indexed]
      unfold convert Run.mapError
      cases (Conversion.convert stack schema).outcome <;> simp [Except.mapError, eq_comm]

/-- Teams and their matches. A match has two teams, and its score has no type in EdgeDB. -/
def fixtures : Prisma.Schema := ⟨[
  .model "Team" [
    .field ⟨"number", .text "Int", false, false, [⟨"default", [.call "autoincrement" []]⟩]⟩,
    .field ⟨"matches", .text "Match", true, false, []⟩],
  .model "Match" [
    .field ⟨"score", .call "Unsupported" [.text "score"], false, false, []⟩,
    .field ⟨"home", .text "Team", false, false, [⟨"relation", [.text "Home"]⟩]⟩,
    .field ⟨"away", .text "Team", false, false, [⟨"relation", [.text "Away"]⟩]⟩]]⟩

/-- The matches of a team are the first fault, and both relations of a match are candidates. -/
theorem fixtures_first_fault :
    (convert .usual fixtures).outcome = .error
      (.ofPlacement (.ambiguousBacklink "Team" "matches" "Match" ["home", "away"])) := by
  have indexed : fixtures.models .usual = .ok _ := rfl
  obtain ⟨_, decides⟩ := first_fault_decides .usual fixtures
  obtain ⟨_, refused, _⟩ := decides _ indexed
  exact (refused _).mpr ⟨.misplaced (.ambiguousBacklink "Team" "matches" "Match" ["home", "away"]),
    by rfl, rfl⟩

/-- A model with the empty name, and a field of it that is typed by this name. -/
def nameless : Prisma.Schema := ⟨[.model "" [.field ⟨"self", .text "", false, false, []⟩]]⟩

/-- The rules alone do not decide: they find no fault in a field that is typed by the empty name of
a declared model. -/
theorem not_ruled_faults_decide :
    ¬ ∀ (schema : Prisma.Schema) (models : Table Text Model),
      schema.models .usual = .ok models →
        ((∃ result, (convert .usual schema).outcome = .ok result) ↔
          ∀ model ∈ models.contents, ∀ field ∈ model.fields.contents,
            ruledFault? .usual models schema.enums model field = none) := by
  intro decides
  have indexed : nameless.models .usual = .ok _ := rfl
  have faultless := (decides nameless _ indexed).mpr (by decide)
  obtain ⟨result, converted⟩ := faultless
  cases converted

end PrismaEsdl.Program
