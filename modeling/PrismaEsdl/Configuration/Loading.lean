import PrismaEsdl.Log.Run
import PrismaEsdl.Yaml.File

/-!
Loading the configuration: what is given on its own prevails over what a file says.
-/

namespace PrismaEsdl.Configuration

/-- A refusal as a failure; `file` is the path that was given for the configuration, as it was
given. -/
def Refusal.failure (refusal : Refusal) (file : Option Text) : Failure :=
  .ofProblem (.configuration refusal.message file) refusal.context []

/-- Tells of a valid configuration, or fails with the report of a refusal. -/
def validated (file : Option Text) (outcome : Except Refusal Configuration) :
    Log.Run Failure Configuration :=
  match outcome with
  | .error refusal => .stop (refusal.failure file)
  | .ok configuration => do
    .tell .configurationValid
    return configuration

/-- Validates the configuration that a document holds. -/
def validate (document : Document) (file : Option Text) : Log.Run Failure Configuration :=
  validated file (ofDocument document)

/-- The entries of the document in the file of a configuration. One that is not an object has
none, and is ignored. -/
def entriesOf (file : Text) (document : Document) :
    Log.Run Failure (List (Document × Document)) := do
  if !document.isSomething then return []
  match document.entries? with
  | some entries =>
    .tell (.configurationRead file)
    return entries
  | none =>
    .tell (.configurationIgnored file)
    return []

/-- The entries in the file of a configuration, by what was found at its path. -/
def readEntries (stack : Stack) (file : Text) (finding : Files.Finding) :
    Log.Run Failure (List (Document × Document)) :=
  match finding with
  | .refused refusal => .stop (.refused refusal (.ofText file))
  | .noFile => .stop (Refusal.fileNotFound.failure (some file))
  | .file content => do
    let malformed := Refusal.unparsable.failure (some file)
    let document ← .ofExcept (Yaml.readFile stack malformed content)
    entriesOf file document

/-- Loads the configuration: each setting takes the value that is given for it, else the one in
the file, if there is a file, else its default. -/
def load (stack : Stack) (file : Option (Text × Files.Finding))
    (given : Setting → Option Document) : Log.Run Failure Configuration := do
  let entries ← match file with
    | some (file, finding) => readEntries stack file finding
    | none => pure []
  let settings := Setting.all.filter fun setting => (given setting).isSome
  if !settings.isEmpty then .tell (.settingsGiven settings)
  let configuration ← validated (file.map Prod.fst) <| ofValues fun setting =>
    (given setting).or (Document.lookup setting.name entries)
  .tell (.configurationChosen configuration)
  return configuration

/-- The value that is given for a setting among values by name; null stands for none. -/
def givenIn (values : Table Text Document) (setting : Setting) : Option Document :=
  match values.get? setting.name with
  | some .null | none => none
  | some value => some value

/-- Loads the configuration that the file at a path in a tree and some values by name give. An empty
path stands for none. -/
def loadFrom (stack : Stack) (tree : Files.Tree) (path : Option Text)
    (values : Table Text Document) : Log.Run Failure Configuration :=
  load stack ((path.filter (!·.isEmpty)).map fun path => (path, tree.find (.ofText path)))
    (givenIn values)

end PrismaEsdl.Configuration
