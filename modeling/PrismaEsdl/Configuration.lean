import PrismaEsdl.Document.Display
import PrismaEsdl.Report
import PrismaEsdl.Text.Identifier
import PrismaEsdl.Text.Utf8

/-!
The configuration: three settings, each a text that is not empty.

A setting is checked on its own. It takes the first of: the value given from outside the file, the
value in the file (null included), its default. A configuration with faults is refused as a whole,
with one fault for each setting that has one.
-/

namespace PrismaEsdl

inductive Setting where
  | inputPath
  | outputPath
  | moduleName
  deriving DecidableEq, Inhabited, Repr

/-- The settings that a run of the program needs. -/
structure Configuration where
  inputPath : Text
  outputPath : Text
  moduleName : Text
  deriving DecidableEq, Inhabited, Repr

namespace Setting

def all : List Setting := [inputPath, outputPath, moduleName]

/-- The name of a setting in files and messages. -/
def name : Setting → Text
  | inputPath => "input_path"
  | outputPath => "output_path"
  | moduleName => "module_name"

def default? : Setting → Option Text
  | inputPath => none
  | outputPath => some "./schema.esdl"
  | moduleName => some "default"

/-- What may be wrong with the value of a setting. -/
inductive Fault where
  | missing
  | notAText
  /-- A text with a surrogate that stands alone, or bytes that write no text. -/
  | notUnicode
  | empty
  | notAModuleName (name : Text)
  deriving DecidableEq, Repr

def Fault.message : Fault → Text
  | missing => "Field required"
  | notAText => "Input should be a valid string"
  | notUnicode =>
    "Input should be a valid string, unable to parse raw data as a unicode string"
  | empty => "String should have at least 1 character"
  | notAModuleName name => "Value error, '" ++ name ++ "' is not a valid module name."

/-- Whether a text holds a surrogate that stands alone. -/
def hasSurrogate (t : Text) : Bool :=
  t.any fun
    | .surrogate _ => true
    | .char _ => false

/-- Checks a text for a setting. -/
def checkText (setting : Setting) (t : Text) : Except Fault Text :=
  if hasSurrogate t then .error .notUnicode
  else if t.isEmpty then .error .empty
  else if setting = .moduleName ∧ !t.isIdentifier then .error (.notAModuleName t)
  else .ok t

/-- Checks the value that was given for a setting, if one was; a default is not checked. Bytes are
the text that they write. -/
def check (setting : Setting) : Option Document → Except Fault Text
  | some (.text t) => setting.checkText t
  | some (.bytes b) =>
    match Text.Utf8.decode? b with
    | some t => setting.checkText t
    | none => .error .notUnicode
  | some _ => .error .notAText
  | none =>
    match setting.default? with
    | some t => .ok t
    | none => .error .missing

end Setting

namespace Configuration

/-- Why a configuration is refused. -/
inductive Refusal where
  | fileNotFound
  /-- The file is not well-formed. -/
  | unparsable
  /-- The value that should hold the settings is not an object. -/
  | notAnObject
  /-- The settings with a fault, in their order. -/
  | invalid (faults : List (Setting × Setting.Fault))
  deriving DecidableEq, Repr

/-- The faults of the settings under a choice of values, in their order. -/
def faults (value? : Setting → Option Document) : List (Setting × Setting.Fault) :=
  Setting.all.filterMap fun setting =>
    match setting.check (value? setting) with
    | .ok _ => none
    | .error fault => some (setting, fault)

/-- Checks the values of all settings. -/
def ofValues (value? : Setting → Option Document) : Except Refusal Configuration :=
  match Setting.inputPath.check (value? .inputPath), Setting.outputPath.check (value? .outputPath),
      Setting.moduleName.check (value? .moduleName) with
  | .ok inputPath, .ok outputPath, .ok moduleName => .ok { inputPath, outputPath, moduleName }
  | _, _, _ => .error (.invalid (faults value?))

/-- Checks the settings that a document holds. -/
def ofDocument (document : Document) : Except Refusal Configuration :=
  match document.entries? with
  | some entries => ofValues fun setting => Document.lookup setting.name entries
  | none => .error .notAnObject

/-- The entries of a configuration as messages show them. -/
def display (c : Configuration) : Text :=
  let entry (setting : Setting) (value : Text) : Text := setting.name.quoted ++ ": " ++ value.quoted
  "\x7b" ++ Text.join ", " [entry .inputPath c.inputPath, entry .outputPath c.outputPath,
    entry .moduleName c.moduleName] ++ "\x7d"

namespace Refusal

def message : Refusal → Text
  | fileNotFound => "Config file not found"
  | unparsable => "Error parsing YAML file: <yaml>"
  | notAnObject | invalid _ =>
    "Configuration validation failed! Please check your config file or arguments."

/-- The faults as entries of a context. -/
def context : Refusal → Table Text Text
  | fileNotFound | unparsable => ∅
  | notAnObject =>
    .ofList [("Model Level",
      "Input should be a valid dictionary or instance of ToolConfigSchema")]
  | invalid faults => .ofList (faults.map fun (setting, fault) => (setting.name, fault.message))

end Refusal

end Configuration

end PrismaEsdl
