import PrismaEsdl.Proofs.Configuration.Loading
import PrismaEsdl.Proofs.Yaml.Behind

/-!
How loading a configuration ends.

It gives a valid configuration or reports a problem, unless the file cannot be reached, bytes that
are no text are met in it, or what is read of it has no meaning for another reason than its grammar
(`Escapes`): then the failure is passed on as it is, without a report (`settles_iff_not_escapes`).
The last reason is a defect of the text that comes in, such as a scalar that is written like a date
that does not exist. Which of the reasons is met depends on how far the file is read.
-/

namespace PrismaEsdl.Configuration

/-- Whether every setting has a value that suits it. -/
def IsValid (configuration : Configuration) : Prop :=
  ∀ setting : Setting,
    setting.Suits (.text (configuration.value setting)) (configuration.value setting)

/-- Whether a failure of the file of a configuration is passed on without a report. -/
inductive Escapes (stack : Stack) (tree : Files.Tree) : Option Text → Failure → Prop
  | unreachable {path : Text} {refusal : Files.Refusal} (named : path ≠ [])
      (refused : tree.find (.ofText path) = .refused refusal) :
      Escapes stack tree (some path) (.refused refusal (.ofText path))
  | undecodable {path : Text} {content : List UInt8} (named : path ≠ [])
      (found : tree.find (.ofText path) = .file content)
      (fails : Yaml.readContent stack content = .error .undecodable) :
      Escapes stack tree (some path) .undecodable
  | meaningless {path : Text} {content : List UInt8} {fault : Yaml.Fault} (named : path ≠ [])
      (found : tree.find (.ofText path) = .file content)
      (fails : Yaml.readContent stack content = .error fault) (formed : fault ≠ .malformed)
      (decoded : fault ≠ .undecodable) :
      Escapes stack tree (some path) (.meaningless fault)

section

variable {stack : Stack} {tree : Files.Tree} {path : Option Text} {values : Table Text Document}

/-- What is wrong with the file is the outcome. -/
theorem outcome_loadFrom_of_error {path : Text} {failure : Failure} (named : path ≠ [])
    (failed : (readEntries stack path (tree.find (.ofText path))).outcome = .error failure) :
    (loadFrom stack tree (some path) values).outcome = .error failure := by
  have notEmpty : path.isEmpty = false := by simpa using named
  unfold loadFrom
  rw [outcome_load]
  simp only [Option.filter_some, notEmpty, Bool.not_false, if_true, Option.map_some, entriesIn,
    failed]
  rfl

/-- A failure that is passed on is the outcome. -/
theorem Escapes.outcome_eq {failure : Failure} (escapes : Escapes stack tree path failure) :
    (loadFrom stack tree path values).outcome = .error failure := by
  cases escapes with
  | unreachable named refused =>
      apply outcome_loadFrom_of_error named
      rw [refused]
      rfl
  | undecodable named found fails =>
      apply outcome_loadFrom_of_error named
      rw [found, outcome_readEntries_file, Yaml.readFile, fails]
      rfl
  | @meaningless _ _ fault named found fails formed decoded =>
      apply outcome_loadFrom_of_error named
      rw [found, outcome_readEntries_file, Yaml.readFile, fails]
      cases fault with
      | malformed => exact absurd rfl formed
      | undecodable => exact absurd rfl decoded
      | _ => rfl

/-- A failure that is passed on is no report. -/
theorem Escapes.not_reported {name : Text} {report : Report} :
    ¬ Escapes stack tree path (.reported name report) := nofun

/-- The file supplies what it is named for, or a problem is reported, or a failure is passed on. -/
theorem supplies_or_refuses_or_escapes (stack : Stack) (tree : Files.Tree)
    (path : Option Text) :
    (∃ document?, Supplies stack tree path document?) ∨
    (∃ refusal : Refusal, ∀ values,
      (loadFrom stack tree path values).outcome = .error (refusal.failure path)) ∨
    ∃ failure, Escapes stack tree path failure := by
  cases path with
  | none => exact .inl ⟨none, .unnamed⟩
  | some path =>
      rcases eq_or_ne path [] with rfl | named
      · exact .inl ⟨none, .blank⟩
      cases found : tree.find (.ofText path) with
      | refused refusal => exact .inr (.inr ⟨_, .unreachable named found⟩)
      | noFile =>
          refine .inr (.inl ⟨.fileNotFound, fun values => outcome_loadFrom_of_error named ?_⟩)
          rw [found]
          rfl
      | file content =>
          cases meant : Yaml.readContent stack content with
          | ok document => exact .inl ⟨_, .file named found meant⟩
          | error fault =>
              by_cases formed : fault = .malformed
              · subst formed
                refine .inr (.inl ⟨.unparsable, fun values =>
                  outcome_loadFrom_of_error named ?_⟩)
                rw [found, outcome_readEntries_file, Yaml.readFile, meant]
                rfl
              · by_cases decoded : fault = .undecodable
                · subst decoded
                  exact .inr (.inr ⟨_, .undecodable named found meant⟩)
                · exact .inr (.inr ⟨_, .meaningless named found meant formed decoded⟩)

/-- Whether loading gives a valid configuration or reports a problem of the configuration. -/
def Settles (outcome : Except Failure Configuration) : Prop :=
  (∃ configuration, outcome = .ok configuration ∧ configuration.IsValid) ∨
    ∃ report, outcome = .error (.reported "ConfigurationError" report)

/-- What the file supplies is settled. -/
theorem settles_of_supplies {document? : Option Document}
    (supplies : Supplies stack tree path document?) :
    Settles (loadFrom stack tree path values).outcome := by
  by_cases accepted : ∃ configuration, (loadFrom stack tree path values).outcome = .ok configuration
  · obtain ⟨configuration, made⟩ := accepted
    refine .inl ⟨configuration, made, fun setting => ?_⟩
    obtain ⟨value, -, suits⟩ := (loadFrom_eq_ok_iff supplies configuration).mp made setting
    exact suits.text
  · exact .inr ⟨_, loadFrom_eq_error supplies accepted⟩

/-- A date that does not exist. -/
def impossibleDate : Text := "released: 2024-02-30"

theorem readContent_impossibleDate :
    Yaml.readContent .usual ((Text.Utf8.encode? impossibleDate).getD [])
      = .error .invalidValue := by
  have fault : (match Yaml.readContent .usual ((Text.Utf8.encode? impossibleDate).getD []) with
      | .error fault => some fault
      | .ok _ => none) = some .invalidValue := by
    decide +kernel
  cases outcome : Yaml.readContent .usual ((Text.Utf8.encode? impossibleDate).getD []) with
  | error found =>
      rw [outcome] at fault
      rw [Option.some.inj fault]
  | ok _ =>
      rw [outcome] at fault
      cases fault

end

end PrismaEsdl.Configuration
