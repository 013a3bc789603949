import PrismaEsdl.CommandLine.Switch
import PrismaEsdl.Text.Number
import PrismaEsdl.Text.Quoted

/-!
Reading the arguments of a command line.

First each argument is looked at on its own: it is a switch, possibly with a value attached, or it
is not. A long switch may be cut short where no other one starts like that. Then the switches are
taken in order. Short switches without a value may share a hyphen, and the last of them may take a
value. Arguments that no switch takes are an error, but only once all others are taken.
-/

namespace PrismaEsdl.CommandLine

/-- What the arguments ask for. -/
structure Options where
  config : Option Text
  /-- The values that are given for settings. A lone pair of hyphens as an attached value gives an
  empty list. -/
  settings : Setting → Option Document
  verbose : Bool
  noColour : Bool

def Options.none : Options := ⟨.none, fun _ => .none, false, false⟩

/-- Why arguments cannot be understood. -/
inductive UsageError where
  | ambiguous (argument : Text) (candidates : List Switch)
  | missingValue (switch : Switch)
  | unwantedValue (switch : Switch) (value : Text)
  | unrecognized (arguments : List Text)

def UsageError.message : UsageError → Text
  | ambiguous argument candidates =>
    "ambiguous option: " ++ argument ++ " could match "
      ++ Text.join ", " (candidates.map Switch.long)
  | missingValue switch => "argument " ++ switch.name ++ ": expected one argument"
  | unwantedValue switch value =>
    "argument " ++ switch.name ++ ": ignored explicit argument " ++ value.quoted
  | unrecognized arguments => "unrecognized arguments: " ++ Text.join " " arguments

/-! ### Single arguments -/

/-- What an argument is on its own. -/
inductive Argument where
  /-- A pair of hyphens: no argument after it is a switch. -/
  | separator
  /-- An argument that a switch may take as its value. -/
  | operand (written : Text)
  | short (switch : Switch) (attached : Option Text)
  | long (switch : Switch) (attached : Option Text)
  /-- An argument that looks like a switch and is none. -/
  | unknown (written : Text)

/-- A text up to its first equals sign, and what follows that sign, if there is one. -/
def splitValue (t : Text) : Text × Option Text :=
  match t.span (· != .char '=') with
  | (name, _ :: value) => (name, some value)
  | (name, []) => (name, none)

/-- Whether an argument is a hyphen and a number: digits of any script, possibly with a point among
them or before them. A line feed may follow. -/
def isNegativeNumber (t : Text) : Bool :=
  match t.withoutLastBreak with
  | .char '-' :: rest =>
    match rest.span CodePoint.isDecimal with
    | (digits, []) => !digits.isEmpty
    | (_, .char '.' :: fraction) => !fraction.isEmpty && fraction.all CodePoint.isDecimal
    | _ => false
  | _ => false

/-- An argument with a hyphen that is no switch. -/
def notASwitch (t : Text) : Argument :=
  if isNegativeNumber t || t.contains (.char ' ') then .operand t else .unknown t

/-- The argument that two hyphens start, by the switches whose names start like it. -/
def classifyLong (t : Text) : Except UsageError Argument :=
  let (name, attached) := splitValue t
  match Switch.ofLong? name with
  | some switch => .ok (.long switch attached)
  | none =>
    match Switch.all.filter fun switch => name.isPrefixOf switch.long with
    | [] => .ok (notASwitch t)
    | [switch] => .ok (.long switch attached)
    | candidates => .error (.ambiguous t candidates)

/-- What an argument is, where a switch may stand. -/
def classify (t : Text) : Except UsageError Argument :=
  match t with
  | [.char '-', .char '-'] => .ok .separator
  | .char '-' :: .char '-' :: _ => classifyLong t
  | .char '-' :: letter :: rest =>
    match Switch.ofShort? letter, rest with
    | some switch, [] => .ok (.short switch none)
    | some switch, .char '=' :: value => .ok (.short switch (some value))
    | some switch, attached => .ok (.short switch (some attached))
    | none, _ => .ok (notASwitch t)
  | _ => .ok (.operand t)

/-- What each of several arguments is; none after a separator is a switch. -/
def classifyAll : List Text → Except UsageError (List Argument)
  | [] => .ok []
  | t :: rest => do
    match ← classify t with
    | .separator => return .separator :: rest.map .operand
    | argument => return argument :: (← classifyAll rest)

/-! ### Taking switches -/

/-- A switch with its value, if it takes one. -/
abbrev Taken := Switch × Option Text

/-- The value of a switch, and the arguments that are left: the attached value, or else the next
argument, which has to be an operand. -/
def valueOf (switch : Switch) (attached : Option Text) (rest : List Argument) :
    Except UsageError (Taken × List Argument) :=
  match attached, rest with
  | some value, rest => .ok ((switch, some value), rest)
  | none, .operand value :: rest => .ok ((switch, some value), rest)
  | none, _ => .error (.missingValue switch)

/-- The switches that share a hyphen with one that takes no value, by the letters after it. -/
def cluster (before : Switch) (rest : List Argument) :
    Text → Except UsageError (List Taken × List Argument)
  | [] => .ok ([], rest)
  | letter :: letters =>
    match Switch.ofShort? letter with
    | none => .error (.unwantedValue before (letter :: letters))
    | some switch =>
      if switch.takesValue then do
        let attached := if letters.isEmpty then none else some letters
        let (taken, rest) ← valueOf switch attached rest
        return ([taken], rest)
      else do
        let (others, rest) ← cluster switch rest letters
        return ((switch, none) :: others, rest)

/-- The switches that an argument stands for, and the arguments that are left. -/
def takeShort (switch : Switch) (attached : Option Text) (rest : List Argument) :
    Except UsageError (List Taken × List Argument) :=
  if switch.takesValue then do
    let (taken, rest) ← valueOf switch attached rest
    return ([taken], rest)
  else match attached with
    | none => .ok ([(switch, none)], rest)
    | some [] => .error (.unwantedValue switch [])
    | some letters => do
      let (others, rest) ← cluster switch rest letters
      return ((switch, none) :: others, rest)

def takeLong (switch : Switch) (attached : Option Text) (rest : List Argument) :
    Except UsageError (List Taken × List Argument) :=
  if switch.takesValue then do
    let (taken, rest) ← valueOf switch attached rest
    return ([taken], rest)
  else match attached with
    | none => .ok ([(switch, none)], rest)
    | some value => .error (.unwantedValue switch value)

/-! ### All arguments -/

/-- What the arguments lead to. -/
inductive Request where
  | help
  | run (options : Options)

namespace Options

/-- A value that a switch takes for a setting. -/
def valueDocument (t : Text) : Document := if t = "--" then .list [] else .text t

/-- The options with one more switch, unless it asks for help. A switch that is given again
prevails. -/
def take (options : Options) : Taken → Option Options
  | (.help, _) => .none
  | (.verbose, _) => some { options with verbose := true }
  | (.noColour, _) => some { options with noColour := true }
  | (.config, value) => some { options with config := value.filter (· ≠ "--") }
  | (switch, value) => some { options with
      settings := fun setting =>
        if switch.setting? = some setting then value.map valueDocument
        else options.settings setting }

end Options

/-- The options after all arguments, or the help as soon as a switch asks for it. What no switch
takes is collected. -/
def takeAll : Nat → Options → (extras : List Text) → List Argument → Except UsageError Request
  | _, options, [], [] => .ok (.run options)
  | _, _, extras, [] => .error (.unrecognized extras)
  | 0, _, _, _ => .ok .help
  | fuel + 1, options, extras, argument :: rest =>
    let continueWith (taken : List Taken × List Argument) : Except UsageError Request :=
      match taken.1.foldlM Options.take options with
      | some options => takeAll fuel options extras taken.2
      | none => .ok .help
    match argument with
    | .separator => takeAll fuel options (extras ++ [Text.ofString "--"]) rest
    | .operand t | .unknown t => takeAll fuel options (extras ++ [t]) rest
    | .short switch attached => do continueWith (← takeShort switch attached rest)
    | .long switch attached => do continueWith (← takeLong switch attached rest)

/-- Reads the arguments of a command line. -/
def read (arguments : List Text) : Except UsageError Request := do
  let arguments ← classifyAll arguments
  takeAll arguments.length .none [] arguments

end PrismaEsdl.CommandLine
