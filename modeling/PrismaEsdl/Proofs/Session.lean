import PrismaEsdl.Proofs.Files.Growth
import PrismaEsdl.Proofs.Log.Run
import PrismaEsdl.Proofs.Program

/-!
Sessions that succeed.

A run that was asked for with some options goes through three stages before it writes anything
(`Program.Translates`): the configuration is validated, the document at its input path is loaded,
and the schema is converted. A session ends with status 0 exactly if all of them succeed and the
rendered schema is written to the output path; and that file, with the directories above it, is all
that it leaves behind (`succeeds_iff`).
-/

namespace PrismaEsdl

namespace Program

open CommandLine (Options)

variable {stack : Stack} {options : Options} {tree : Files.Tree}
  {configuration : Configuration} {text : Text}

/-- The stages of a run up to its schema: the configuration that the options and the file they name
give, the schema that is loaded from its input path, and what that is converted to. -/
structure Translates (stack : Stack) (options : Options) (tree : Files.Tree)
    (configuration : Configuration) (source : Prisma.Schema) (schema : Esdl.Schema) : Prop where
  configured : (configure stack options <|
    (configPath? options).map fun path => (path, tree.find (.ofText path))).outcome
      = .ok configuration
  loaded : (Prisma.load stack (inputPath configuration)
    (tree.find (inputPath configuration))).outcome = .ok source
  converted : (convert stack source).outcome = .ok schema

theorem outcome_compile_eq_ok_iff {input : Files.Finding} :
    (compile stack configuration input).outcome = .ok text ↔
      ∃ source schema, (Prisma.load stack (inputPath configuration) input).outcome = .ok source ∧
        (convert stack source).outcome = .ok schema ∧
        schema.render configuration.moduleName = text := by
  unfold compile render
  simp only [Log.Run.outcome_bind_eq_ok_iff, Log.Run.outcome_tell, Log.Run.outcome_tellAll,
    Log.Run.outcome_pure, Except.ok.injEq]
  constructor
  · rintro ⟨_, _, _, _, source, loaded, _, _, schema, converted, _, _, _, _, rfl⟩
    exact ⟨source, schema, loaded, converted, rfl⟩
  · rintro ⟨source, schema, loaded, converted, rfl⟩
    exact ⟨(), trivial, (), trivial, source, loaded, (), trivial, schema, converted, (), trivial,
      (), trivial, rfl⟩

theorem outcome_prepare_eq_ok_iff :
    (prepare stack options tree).outcome = .ok (configuration, text) ↔
      ∃ source schema, Translates stack options tree configuration source schema ∧
        schema.render configuration.moduleName = text := by
  unfold prepare
  simp only [Log.Run.outcome_bind_eq_ok_iff, Log.Run.outcome_pure, outcome_compile_eq_ok_iff]
  constructor
  · rintro ⟨_, configured, _, ⟨source, schema, loaded, converted, rfl⟩, same⟩
    cases same
    exact ⟨source, schema, ⟨configured, loaded, converted⟩, rfl⟩
  · rintro ⟨source, schema, stages, rfl⟩
    exact ⟨configuration, stages.configured, _, ⟨source, schema, stages.loaded, stages.converted,
      rfl⟩, rfl⟩

/-- A run succeeds exactly if its stages do and the rendered schema is written; it leaves the tree
in which that is done. -/
theorem run_eq_ok_iff :
    (run stack options tree).1.outcome = .ok () ↔
      ∃ configuration source schema, Translates stack options tree configuration source schema ∧
        tree.write (outputPath configuration) (schema.render configuration.moduleName)
          = (none, (run stack options tree).2) := by
  constructor
  · intro success
    cases prepared : (prepare stack options tree).outcome with
    | error failure =>
        rw [run_of_unprepared prepared] at success
        cases success
    | ok result =>
        obtain ⟨configuration, text⟩ := result
        cases attempt : tree.write (outputPath configuration) text with
        | mk error after =>
            obtain ⟨ending, left⟩ := run_of_prepared prepared attempt
            rw [ending] at success
            cases error with
            | some error => cases success
            | none =>
                obtain ⟨source, schema, stages, rfl⟩ := outcome_prepare_eq_ok_iff.mp prepared
                exact ⟨configuration, source, schema, stages, by rw [attempt, left]⟩
  · rintro ⟨configuration, source, schema, stages, attempt⟩
    have prepared := outcome_prepare_eq_ok_iff.mpr ⟨source, schema, stages, rfl⟩
    rw [(run_of_prepared prepared attempt).1]
    rfl

end Program

namespace Session

open CommandLine (Options)

variable {stack : Stack} {arguments : List Text} {isTerminal : Bool} {tree : Files.Tree}
  {options : Options}

/-- A session with options that were understood ends with status 0 exactly if its run succeeds, and
its files are those of the run. -/
theorem ending_ofRun_eq_iff :
    ((ofRun stack options isTerminal tree).ending = .exit 0 ↔
        (Program.run stack options tree).1.outcome = .ok ()) ∧
      (ofRun stack options isTerminal tree).files = (Program.run stack options tree).2 := by
  unfold ofRun
  cases outcome : (Program.run stack options tree).1.outcome with
  | ok value => simp [outcome]
  | error failure =>
      cases told : failure.message? with
      | some message => simp [outcome, told]
      | none => simp [outcome, told]

/-- A session with options that were understood ends with status 0 exactly if its stages succeed and
the rendered schema is written to the output path. Of the files it then makes or changes the one
that the output path leads to, which has the bytes of the rendered schema; the only new directories
are above it. -/
theorem succeeds_iff (understood : CommandLine.read arguments = .ok (.run options)) :
    ((start stack arguments isTerminal tree).ending = .exit 0 ↔
      ∃ configuration source schema,
        Program.Translates stack options tree configuration source schema ∧
        (tree.write (Program.outputPath configuration)
          (schema.render configuration.moduleName)).1 = none) ∧
    ((start stack arguments isTerminal tree).ending = .exit 0 →
      ∃ configuration source schema content,
        Program.Translates stack options tree configuration source schema ∧
        Text.Utf8.encode? (schema.render configuration.moduleName) = some content ∧
        Files.Tree.Leaves (Program.outputPath configuration) content tree
          (start stack arguments isTerminal tree).files) := by
  unfold start
  simp only [understood]
  obtain ⟨ending, files⟩ := @ending_ofRun_eq_iff stack isTerminal tree options
  rw [ending, files, Program.run_eq_ok_iff]
  refine ⟨⟨?_, ?_⟩, ?_⟩
  · rintro ⟨configuration, source, schema, stages, attempt⟩
    exact ⟨configuration, source, schema, stages, by rw [attempt]⟩
  · rintro ⟨configuration, source, schema, stages, success⟩
    have prepared := Program.outcome_prepare_eq_ok_iff.mpr ⟨source, schema, stages, rfl⟩
    refine ⟨configuration, source, schema, stages, Prod.ext success ?_⟩
    exact (Program.run_of_prepared prepared rfl).2.symm
  · rintro ⟨configuration, source, schema, stages, attempt⟩
    obtain ⟨content, encoded, leaves⟩ := Files.Tree.leaves_of_write attempt
    exact ⟨configuration, source, schema, content, stages, encoded, leaves⟩

/-! ### A session that succeeds -/

/-- The document of a schema with one enum, and a configuration with a module name. -/
def shop : Files.Tree :=
  let document : Text :=
    "\x7b\"type\": \"schema\", \"list\": [\x7b\"type\": \"enum\", \"name\": \"Size\"\x7d]\x7d"
  ⟨.ofList [
    (["home", "shop.json"], .file ((Text.Utf8.encode? document).getD [])),
    (["home", "settings.yaml"], .file ((Text.Utf8.encode? "module_name: store").getD []))],
    ["home"]⟩

/-- The arguments that have the schema written to a directory that is not there yet. -/
def shopArguments : List Text :=
  ["-c", "settings.yaml", "-i", "shop.json", "-o", "generated/shop.esdl"]

def selling : Session := start .usual shopArguments false shop

theorem selling_ending : selling.ending = .exit 0 := by
  have status : (match selling.ending with | .exit n => n | .crash _ => 1) = 0 := by
    decide +kernel
  cases ended : selling.ending with
  | exit n =>
      rw [ended] at status
      rw [show n = 0 from status]
  | crash failure =>
      rw [ended] at status
      cases status

/-- The schema of the shop is written, and nothing else. -/
theorem shop_is_written :
    ∃ options, CommandLine.read shopArguments = .ok (.run options) ∧
      selling.ending = .exit 0 ∧
      ∃ configuration source schema content,
        Program.Translates .usual options shop configuration source schema ∧
        Text.Utf8.encode? (schema.render configuration.moduleName) = some content ∧
        Files.Tree.Leaves (Program.outputPath configuration) content shop selling.files := by
  have understood : CommandLine.read shopArguments = .ok (.run _) := rfl
  exact ⟨_, understood, selling_ending, (succeeds_iff understood).2 selling_ending⟩

end Session

end PrismaEsdl
