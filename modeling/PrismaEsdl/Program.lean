import PrismaEsdl.CommandLine.Arguments
import PrismaEsdl.Configuration.Loading
import PrismaEsdl.Esdl.Rendering
import PrismaEsdl.Log.Console
import PrismaEsdl.Prisma.Loading
import PrismaEsdl.Conversion.Placement

/-!
The program: from the arguments of a command line to a written schema.

Nothing is written before the whole schema is converted and rendered. What a run tells and how it
ends is plain data, and so are the files it leaves.
-/

namespace PrismaEsdl

open Log (Event Console)
open CommandLine (Options)

namespace Program

/-- Renders a schema in a module. -/
def render {ε : Type} (schema : Esdl.Schema) (moduleName : Text) : Log.Run ε Text := do
  .tell (.moduleRendered moduleName schema.enums.size schema.types.size)
  return schema.render moduleName

/-- The configuration that the options and the file they name give. -/
def configure (stack : Stack) (options : Options) (file : Option (Text × Files.Finding)) :
    Log.Run Failure Configuration := do
  if options.verbose then .tell .verboseEnabled
  .tell (.started "Loading configuration...")
  Configuration.load stack file options.settings

/-- The path that the schema document is looked for at. -/
def inputPath (configuration : Configuration) : Files.Path := .ofText configuration.inputPath

/-- The path that the schema is written to. -/
def outputPath (configuration : Configuration) : Files.Path := .ofText configuration.outputPath

/-- Converts a schema; what stops the conversion is the failure of the program. -/
def convert (stack : Stack) (source : Prisma.Schema) : Log.Run Failure Esdl.Schema :=
  (Conversion.convert stack source).mapError .ofObstacle

/-- The text that the document found at the input path is converted to. -/
def compile (stack : Stack) (configuration : Configuration) (input : Files.Finding) :
    Log.Run Failure Text := do
  .tellAll (Event.sectionHeader "Schema Translation")
  .tell (.started ("Loading schema document " ++ configuration.inputPath ++ "..."))
  let source ← Prisma.load stack (inputPath configuration) input
  .tell (.started "Translating models, relations and enums...")
  let schema ← convert stack source
  .tell (.started ("Rendering module '" ++ configuration.moduleName ++ "'..."))
  render schema configuration.moduleName

/-- What there is to tell after an attempt to write the output. -/
def report (path : Files.Path) (error : Option Files.WritingError) : Log.Run Failure Unit :=
  match error with
  | some error => .stop (.ofWriting error)
  | none => do
    .tell (.fileWritten path.toText)
    .tell (.succeeded ("ESDL schema written to " ++ path.toText))

/-- The path of the configuration file; an empty one stands for none. -/
def configPath? (options : Options) : Option Text := options.config.filter (!·.isEmpty)

/-- What is compiled, and the configuration it was compiled with. -/
def prepare (stack : Stack) (options : Options) (tree : Files.Tree) :
    Log.Run Failure (Configuration × Text) := do
  let file := (configPath? options).map fun path => (path, tree.find (.ofText path))
  let configuration ← configure stack options file
  let text ← compile stack configuration (tree.find (inputPath configuration))
  return (configuration, text)

/-- Runs the program on a tree of files: what it tells, its outcome, and the tree it leaves. -/
def run (stack : Stack) (options : Options) (tree : Files.Tree) :
    Log.Run Failure Unit × Files.Tree :=
  let prepared := prepare stack options tree
  match prepared.outcome with
  | .error failure => (⟨prepared.events, .error failure⟩, tree)
  | .ok (configuration, text) =>
    let path := outputPath configuration
    let (error, tree) := tree.write path text
    let reported := report path error
    (⟨prepared.events ++ reported.events, reported.outcome⟩, tree)

end Program

/-! ### Sessions on a console -/

/-- How a run ends. -/
inductive Ending where
  | exit (status : Nat)
  /-- The run ends with a failure that is not expected. -/
  | crash (failure : Failure)

/-- What a run leaves behind. -/
structure Session where
  ending : Ending
  /-- What is written for the reader of the results. -/
  output : Text
  /-- What is written for the reader of the log. -/
  errors : Text
  files : Files.Tree

namespace Session

/-- The console of a run. -/
def console (options : Options) (isTerminal : Bool) : Console :=
  Console.initial.setUp (if options.verbose then .debug else .info) (!options.noColour) isTerminal

/-- The end of a log about a failure that is told. In a verbose run it goes on with a trace, which
is not part of it. -/
def lastWords (options : Options) (console : Console) (message : Text) : Text :=
  let record := (Event.failed message).record
  if options.verbose then console.begin "" record else console.write "" record

/-- A session with options that were understood. -/
def ofRun (stack : Stack) (options : Options) (isTerminal : Bool) (tree : Files.Tree) :
    Session :=
  let console := console options isTerminal
  let (run, files) := Program.run stack options tree
  let told := console.writeAll "" run.events
  match run.outcome with
  | .ok () => ⟨.exit 0, [], told, files⟩
  | .error failure =>
    match failure.message? with
    | some message => ⟨.exit 1, [], told ++ lastWords options console message, files⟩
    | none => ⟨.crash failure, [], told, files⟩

/-- A session with some arguments. -/
def start (stack : Stack) (arguments : List Text) (isTerminal : Bool) (tree : Files.Tree) :
    Session :=
  match CommandLine.read arguments with
  | .ok (.run options) => ofRun stack options isTerminal tree
  | .ok .help => ⟨.exit 0, CommandLine.help, [], tree⟩
  | .error error => ⟨.exit 2, [], CommandLine.complaint error.message, tree⟩

end Session

end PrismaEsdl
