import PrismaEsdl.Configuration

/-!
The switches of the command line and the texts about them.
-/

namespace PrismaEsdl.CommandLine

/-- The name under which the program speaks of itself. -/
def programName : Text := "esdl-auto-generator"

inductive Switch where
  | help
  | config
  | input
  | output
  | module
  | verbose
  | noColour
  deriving DecidableEq, Repr

namespace Switch

/-- All switches, in the order of the help. -/
def all : List Switch := [help, config, input, output, module, verbose, noColour]

def short? : Switch → Option CodePoint
  | help => some (.char 'h')
  | config => some (.char 'c')
  | input => some (.char 'i')
  | output => some (.char 'o')
  | module => some (.char 'm')
  | verbose => some (.char 'v')
  | noColour => none

def long : Switch → Text
  | help => "--help"
  | config => "--config"
  | input => "--input"
  | output => "--output"
  | module => "--module"
  | verbose => "--verbose"
  | noColour => "--no-color"

/-- The word for the value of a switch that takes one. -/
def valueWord? : Switch → Option Text
  | config => some "CONFIG"
  | input => some "INPUT_PATH"
  | output => some "OUTPUT_PATH"
  | module => some "MODULE_NAME"
  | help | verbose | noColour => none

def takesValue (switch : Switch) : Bool := switch.valueWord?.isSome

/-- The setting whose value a switch gives. -/
def setting? : Switch → Option Setting
  | input => some .inputPath
  | output => some .outputPath
  | module => some .moduleName
  | help | config | verbose | noColour => none

/-- The lines of the help about what a switch is for. -/
def purpose : Switch → List Text
  | help => ["show this help message and exit"]
  | config => ["Path to the YAML configuration file."]
  | input => ["Parsed schema document (JSON or YAML). Overrides", "config file setting."]
  | output => ["ESDL file to write. Overrides config file setting."]
  | module => ["ESDL module name. Overrides config file setting."]
  | verbose => ["Enable verbose DEBUG logging."]
  | noColour => ["Disable colored output (useful for CI/CD", "environments)."]

/-- The switch that one letter after a hyphen stands for. -/
def ofShort? (letter : CodePoint) : Option Switch := all.find? (·.short? = some letter)

/-- The switch with a long name. -/
def ofLong? (name : Text) : Option Switch := all.find? (·.long = name)

/-- The ways to write a switch, the short one first. -/
def spellings (switch : Switch) : List Text :=
  (switch.short?.map fun letter => [.char '-', letter]).toList ++ [switch.long]

/-- The name of a switch in messages. -/
def name (switch : Switch) : Text := Text.join "/" switch.spellings

end Switch

/-! ### Usage and help -/

/-- The two lines that show all switches. -/
def usage : Text :=
  "usage: " ++ programName ++ " [-h] [-c CONFIG] [-i INPUT_PATH] [-o OUTPUT_PATH]\n"
    ++ "                           [-m MODULE_NAME] [-v] [--no-color]\n"

/-- The column of the help in which purposes stand. -/
def purposeColumn : Nat := 24

def blanks (n : Nat) : Text := List.replicate n (.char ' ')

/-- The way to write a switch with its value, in the help. -/
def invocation (switch : Switch) : Text :=
  Text.join ", " (switch.spellings.map fun spelling => match switch.valueWord? with
    | some word => spelling ++ " " ++ word
    | none => spelling)

/-- The lines of the help about a switch. The purpose starts on the same line if two blanks fit
before it. -/
def helpLines (switch : Switch) : List Text :=
  let head := blanks 2 ++ invocation switch
  let indented := switch.purpose.map (blanks purposeColumn ++ ·)
  match switch.purpose, indented with
  | first :: _, _ :: others =>
    if head.length + 2 ≤ purposeColumn then
      (head ++ blanks (purposeColumn - head.length) ++ first) :: others
    else head :: indented
  | _, _ => [head]

def help : Text :=
  let lines : List Text := [
    "", "Translate a parsed Prisma schema into an EdgeDB (ESDL) schema.", "", "options:"]
  usage ++ (lines ++ Switch.all.flatMap helpLines).flatMap fun line => line ++ [.char '\n']

/-- What is written about arguments that cannot be understood. -/
def complaint (message : Text) : Text := usage ++ programName ++ ": error: " ++ message ++ "\n"

end PrismaEsdl.CommandLine
