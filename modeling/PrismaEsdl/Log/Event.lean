import PrismaEsdl.Configuration
import PrismaEsdl.Text.Case

/-!
Events: what a run has to tell, each with its level and its message.
-/

namespace PrismaEsdl.Log

/-- The importance of an event. Five levels have a name, and so has 0. -/
structure Level where
  rank : Int
  deriving DecidableEq, Inhabited, Repr

namespace Level

def notSet : Level := ⟨0⟩

def debug : Level := ⟨10⟩

def info : Level := ⟨20⟩

def warning : Level := ⟨30⟩

def error : Level := ⟨40⟩

def critical : Level := ⟨50⟩

/-- The levels that have a name. Two of them have another one, which is only read. -/
def named : List (Level × Text) := [
  (notSet, "NOTSET"), (debug, "DEBUG"), (info, "INFO"), (warning, "WARNING"), (error, "ERROR"),
  (critical, "CRITICAL"), (warning, "WARN"), (critical, "FATAL")]

/-- The name of a level; a level without one is called by its rank. -/
def name (level : Level) : Text :=
  match named.find? (·.1 = level) with
  | some (_, name) => name
  | none => "Level " ++ Text.ofInt level.rank

/-- The level that has a name. -/
def ofName? (name : Text) : Option Level := (named.find? (·.2 = name)).map Prod.fst

end Level

/-- A level and a message. -/
structure Record where
  level : Level
  message : Text
  deriving DecidableEq, Inhabited, Repr

/-- What a run has to tell. -/
inductive Event where
  | verboseEnabled
  /-- The start of a step. -/
  | started (step : Text)
  /-- The good end of a run. -/
  | succeeded (outcome : Text)
  /-- The line above and below the title of a section. -/
  | sectionRule
  | sectionTitle (title : Text)
  | failed (message : Text)
  | configurationRead (path : Text)
  | configurationIgnored (path : Text)
  | settingsGiven (settings : List Setting)
  | configurationValid
  | configurationChosen (configuration : Configuration)
  | documentRead (path : Text)
  | declarationsRead (count : Nat)
  | modelsIndexed (names : List Text)
  | enumRead (name : Text) (values : List Text)
  | backlinkMade (model field target inverse : Text)
  | linkMade (model field target : Text)
  /-- A link stands for an id field that its model does not have. -/
  | idUndeclared (model field id : Text)
  /-- The default of a field has no expression. -/
  | defaultDropped (model field value type : Text)
  | schemaConverted (enums types : Nat)
  | moduleRendered (name : Text) (enums types : Nat)
  | fileWritten (path : Text)
  deriving Inhabited

namespace Event

def level : Event → Level
  | started _ | succeeded _ | sectionRule | sectionTitle _ | schemaConverted .. => .info
  | configurationIgnored _ | idUndeclared .. | defaultDropped .. => .warning
  | failed _ => .error
  | verboseEnabled | configurationRead _ | settingsGiven _ | configurationValid
  | configurationChosen _ | documentRead _ | declarationsRead _ | modelsIndexed _ | enumRead ..
  | backlinkMade .. | linkMade .. | moduleRendered .. | fileWritten _ => .debug

/-- The names of settings in quotes, in the order of their code points. -/
def settingNames (settings : List Setting) : Text :=
  "\x7b" ++ Text.join ", " (((settings.map Setting.name).mergeSort Text.le).map Text.quoted)
    ++ "\x7d"

def message : Event → Text
  | verboseEnabled => "Verbose mode enabled. DEBUG level logging activated."
  | started step => "→ " ++ step
  | succeeded outcome => "✓ " ++ outcome
  | sectionRule => List.replicate 60 (.char '=')
  | sectionTitle title => "  " ++ title.upper
  | failed message => message
  | configurationRead path => "Loaded configuration from " ++ path
  | configurationIgnored path =>
    "Content in config file " ++ path ++ " is not a dictionary. Ignoring file content."
  | settingsGiven settings =>
    "Overridden config keys from CLI arguments: " ++ settingNames settings
  | configurationValid =>
    "Configuration dictionary parsed and validated successfully against schema."
  | configurationChosen configuration => "Effective configuration: " ++ configuration.display
  | documentRead path => "Loaded schema document from " ++ path
  | declarationsRead count => "Parsed " ++ Text.ofNat count ++ " top-level declarations"
  | modelsIndexed names =>
    "Normalized " ++ Text.ofNat names.length ++ " models: " ++ Text.join ", " names
  | enumRead name values => "Enum " ++ name ++ ": " ++ Text.join ", " values
  | backlinkMade model field target inverse =>
    model ++ "." ++ field ++ ": backlink through " ++ target ++ "." ++ inverse
  | linkMade model field target => model ++ "." ++ field ++ ": link -> " ++ target
  | idUndeclared model field id =>
    "Relation '" ++ model ++ "." ++ field ++ "' names id field '" ++ id
      ++ "' which is not declared on '" ++ model ++ "'"
  | defaultDropped model field value type =>
    "Dropping default '" ++ value ++ "' of field '" ++ model ++ "." ++ field
      ++ "': no ESDL equivalent for type '" ++ type ++ "'"
  | schemaConverted enums types =>
    "Translated " ++ Text.ofNat enums ++ " enums and " ++ Text.ofNat types ++ " object types."
  | moduleRendered name enums types =>
    "Rendered module '" ++ name ++ "' with " ++ Text.ofNat enums ++ " enums and "
      ++ Text.ofNat types ++ " types"
  | fileWritten path => "Generated file: " ++ path

def record (event : Event) : Record := ⟨event.level, event.message⟩

/-- The events of a section header. -/
def sectionHeader (title : Text) : List Event := [sectionRule, sectionTitle title, sectionRule]

end Event

end PrismaEsdl.Log
