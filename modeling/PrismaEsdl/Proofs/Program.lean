import PrismaEsdl.Program
import PrismaEsdl.Proofs.Files.Writing

/-!
What a session leaves of the files.

A run touches the files in one step only, the attempt to write its output, and makes that attempt
only once the schema is converted and rendered (`run_of_unprepared`, `run_of_prepared`). The attempt
may still fail after the output is opened: a session that does not succeed leaves every file as it
was, unless it empties it in this way (`failed_session_keeps_file_iff`).
-/

namespace PrismaEsdl

namespace Program

open CommandLine (Options)

variable {stack : Stack} {options : Options} {tree after : Files.Tree} {place : Files.Place}
  {configuration : Configuration} {text : Text}

/-- A run that stops before anything is written leaves the tree as it was. -/
theorem run_of_unprepared {failure : Failure}
    (stopped : (prepare stack options tree).outcome = .error failure) :
    run stack options tree = (⟨(prepare stack options tree).events, .error failure⟩, tree) := by
  simp only [run, stopped]

/-- A run that gets as far as writing ends as the attempt to write does, and leaves its tree. -/
theorem run_of_prepared
    (prepared : (prepare stack options tree).outcome = .ok (configuration, text))
    {error : Option Files.WritingError}
    (attempt : tree.write (outputPath configuration) text = (error, after)) :
    (run stack options tree).1.outcome = (report (outputPath configuration) error).outcome ∧
      (run stack options tree).2 = after := by
  simp only [run, prepared, attempt, and_self]

/-- Whether a run empties the file in a place: the schema is converted and rendered, and the attempt
to write it empties the file. -/
def Empties (stack : Stack) (options : Options) (tree : Files.Tree) (place : Files.Place) : Prop :=
  ∃ configuration text, (prepare stack options tree).outcome = .ok (configuration, text) ∧
    tree.Empties (outputPath configuration) text place

/-- A run that fails either stops before it writes, or its attempt to write fails. -/
theorem cases_of_failed {failure : Failure}
    (failed : (run stack options tree).1.outcome = .error failure) :
    (¬ (∃ place, Empties stack options tree place) ∧ (run stack options tree).2 = tree) ∨
      ∃ configuration text error,
        (prepare stack options tree).outcome = .ok (configuration, text) ∧
          tree.write (outputPath configuration) text = (some error, (run stack options tree).2) ∧
          failure = .ofWriting error := by
  cases prepared : (prepare stack options tree).outcome with
  | error reason =>
      refine .inl ⟨?_, by rw [run_of_unprepared prepared]⟩
      rintro ⟨place, configuration, text, success, _⟩
      cases prepared.symm.trans success
  | ok result =>
      obtain ⟨configuration, text⟩ := result
      cases attempt : tree.write (outputPath configuration) text with
      | mk error after =>
          obtain ⟨ending, left⟩ := run_of_prepared prepared attempt
          rw [ending] at failed
          cases error with
          | none => cases failed
          | some error =>
              cases failed
              exact .inr ⟨configuration, text, error, rfl, by rw [left, attempt], rfl⟩

/-- The file that a run empties is empty afterwards, and the run ends because the text that was to
be written there has no bytes. -/
theorem file?_of_empties {failure : Failure}
    (failed : (run stack options tree).1.outcome = .error failure)
    (emptied : Empties stack options tree place) :
    failure = .unencodable ∧ (run stack options tree).2.file? place = some [] := by
  rcases cases_of_failed failed with ⟨spared, _⟩ | ⟨configuration, text, error, ready, attempt, _⟩
  · exact absurd ⟨place, emptied⟩ spared
  · subst failure
    obtain ⟨configuration', text', ready', emptied⟩ := emptied
    cases ready.symm.trans ready'
    obtain ⟨rfl, empty⟩ := Files.Tree.file?_of_empties attempt emptied
    exact ⟨rfl, empty⟩

/-- A failed run leaves all files as they were that it does not empty. -/
theorem file?_of_not_empties {failure : Failure}
    (failed : (run stack options tree).1.outcome = .error failure)
    (spared : ¬ Empties stack options tree place) :
    (run stack options tree).2.file? place = tree.file? place := by
  rcases cases_of_failed failed with ⟨_, same⟩ | ⟨configuration, text, error, ready, attempt, _⟩
  · rw [same]
  · refine Files.Tree.file?_of_not_empties attempt fun emptied => ?_
    exact spared ⟨configuration, text, ready, emptied⟩

end Program

namespace Session

open CommandLine (Options)

variable {stack : Stack} {arguments : List Text} {isTerminal : Bool} {tree : Files.Tree}
  {options : Options}

/-- A session with options that were understood fails exactly when its run does. Its files are those
of the run, and it ends with a failure that is not expected if there is nothing to tell about it. -/
theorem exists_of_ending_ne (failed : (ofRun stack options isTerminal tree).ending ≠ .exit 0) :
    ∃ failure, (Program.run stack options tree).1.outcome = .error failure ∧
      (ofRun stack options isTerminal tree).files = (Program.run stack options tree).2 ∧
      (failure.message? = none →
        (ofRun stack options isTerminal tree).ending = .crash failure) := by
  unfold ofRun at failed ⊢
  cases outcome : (Program.run stack options tree).1.outcome with
  | ok value => simp [outcome] at failed
  | error failure =>
      refine ⟨failure, rfl, ?_, fun silent => ?_⟩
      · cases told : failure.message? with
        | some message => simp [outcome, told]
        | none => simp [outcome, told]
      · simp [outcome, silent]

/-- Whether a session empties the file in a place: its options are understood, and its run empties
the file. -/
def Empties (stack : Stack) (arguments : List Text) (tree : Files.Tree) (place : Files.Place) :
    Prop :=
  ∃ options, CommandLine.read arguments = .ok (.run options) ∧
    Program.Empties stack options tree place

/-- What a session that does not succeed leaves of each file. It empties only a file that it has
opened for a text without bytes, and then ends with that failure; so the files are all as they were
exactly when what it empties was empty before. -/
theorem failed_session_keeps_file_iff
    (failed : (start stack arguments isTerminal tree).ending ≠ .exit 0) (place : Files.Place) :
    (Empties stack arguments tree place →
        (start stack arguments isTerminal tree).ending = .crash .unencodable ∧
          (start stack arguments isTerminal tree).files.file? place = some []) ∧
      ((start stack arguments isTerminal tree).files.file? place = tree.file? place ↔
        (Empties stack arguments tree place → tree.file? place = some [])) := by
  unfold start at failed ⊢
  cases understood : CommandLine.read arguments with
  | error error =>
      have spared : ¬ Empties stack arguments tree place := by
        rintro ⟨options, success, _⟩
        cases understood.symm.trans success
      simp [spared]
  | ok request =>
      cases request with
      | help => simp [understood] at failed
      | run options =>
          simp only [understood] at failed
          obtain ⟨failure, outcome, files, silent⟩ := exists_of_ending_ne failed
          have same :
              Empties stack arguments tree place ↔ Program.Empties stack options tree place := by
            constructor
            · rintro ⟨options', success, emptied⟩
              cases understood.symm.trans success
              exact emptied
            · exact fun emptied => ⟨options, understood, emptied⟩
          rw [same, files]
          by_cases emptied : Program.Empties stack options tree place
          · obtain ⟨rfl, empty⟩ := Program.file?_of_empties outcome emptied
            refine ⟨fun _ => ⟨silent rfl, empty⟩, ?_⟩
            rw [empty]
            exact ⟨fun kept _ => kept.symm, fun kept => (kept emptied).symm⟩
          · have kept := Program.file?_of_not_empties outcome emptied
            simp [emptied, kept]

/-! ### A text without bytes -/

/-- The document of a schema with one enum, the name of which is half of a surrogate pair. -/
def halfPair : List UInt8 :=
  (Text.Utf8.encode?
    "\x7btype: schema, list: [\x7btype: enum, name: \"\\ud83d\"\x7d]\x7d").getD []

/-- A working directory with that document and the output of an earlier run. -/
def earlier : Files.Tree :=
  ⟨.ofList [(["s.json"], .file halfPair), (["out.esdl"], .file [1])], []⟩

/-- The arguments that have the document written over the earlier output. -/
def overwrite : List Text := ["-i", "s.json", "-o", "out.esdl"]

def overwriting : Session := start .usual overwrite false earlier

theorem overwriting_fails :
    overwriting.ending ≠ .exit 0 ∧
      overwriting.files.file? ["out.esdl"] ≠ earlier.file? ["out.esdl"] := by
  have fails : (match overwriting.ending with | .exit _ => true | .crash _ => false) = false ∧
      overwriting.files.file? ["out.esdl"] ≠ earlier.file? ["out.esdl"] := by
    decide +kernel
  refine ⟨fun ended => ?_, fails.2⟩
  have crashed := fails.1
  rw [ended] at crashed
  cases crashed

/-- The earlier output is lost: the session crashes and leaves an empty file. -/
theorem halfPair_empties_output :
    overwriting.ending ≠ .exit 0 ∧ Empties .usual overwrite earlier ["out.esdl"] ∧
      overwriting.ending = .crash .unencodable ∧ earlier.file? ["out.esdl"] = some [1] ∧
        overwriting.files.file? ["out.esdl"] = some [] := by
  obtain ⟨failed, lost⟩ := overwriting_fails
  obtain ⟨emptied, kept_iff⟩ := failed_session_keeps_file_iff failed ["out.esdl"]
  have empties := (Classical.not_imp.mp (mt kept_iff.mpr lost)).1
  obtain ⟨crashed, empty⟩ := emptied empties
  exact ⟨failed, empties, crashed, rfl, empty⟩

/-- Not every session that fails leaves the files as they were. -/
theorem not_every_failure_keeps_files :
    ¬ ∀ stack arguments isTerminal tree, (∃ request, CommandLine.read arguments = .ok request) →
      (start stack arguments isTerminal tree).ending ≠ .exit 0 →
        ∀ place, (start stack arguments isTerminal tree).files.file? place = tree.file? place := by
  intro kept
  exact overwriting_fails.2 (kept .usual _ false earlier ⟨_, rfl⟩ overwriting_fails.1 _)

end Session

end PrismaEsdl
