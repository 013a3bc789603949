import PrismaEsdl.Log.Style

/-!
The console: where records end up.

Until it is set up, a console discards all it is given. Setting it up replaces whatever it wrote to
by one terminal, however often that is done.
-/

namespace PrismaEsdl.Log

/-- Where a console writes to. -/
inductive Console.Target where
  | nowhere
  /-- A terminal shows records at its level or above it. -/
  | terminal (level : Level) (style : Style)
  deriving Inhabited

structure Console where
  /-- Records below this level go to no target. -/
  level : Level
  targets : List Console.Target
  deriving Inhabited

namespace Console

def initial : Console := ⟨.warning, [.nowhere]⟩

/-- Sets the level of a console and makes one terminal its only target. Colours are used where they
are wanted and the target is a terminal indeed. -/
def setUp (_ : Console) (level : Level) (useColours isTerminal : Bool) : Console :=
  ⟨level, [.terminal level ⟨.plain, useColours && isTerminal⟩]⟩

/-- Whether a console takes a record; a level of zero or less is never taken. -/
def takes (console : Console) (record : Record) : Bool :=
  0 < record.level.rank && console.level.rank ≤ record.level.rank

/-- What a target shows of a record; `form` gives the text of the record in a style. -/
def Target.shown (form : Style → Record → Text) (record : Record) : Target → Text
  | .nowhere => []
  | .terminal level style => if level.rank ≤ record.level.rank then form style record else []

/-- What a console shows of a record in some form. -/
def display (console : Console) (form : Style → Record → Text) (record : Record) : Text :=
  if console.takes record then console.targets.flatMap (Target.shown form record) else []

/-- What a console writes for a record. -/
def write (console : Console) (source : Text) (record : Record) : Text :=
  console.display (fun style record => style.line source record ++ "\n") record

/-- What a console writes for a record up to the end of its message. -/
def begin (console : Console) (source : Text) (record : Record) : Text :=
  console.display (fun style => style.head source) record

/-- What a console writes for events, one after the other. -/
def writeAll (console : Console) (source : Text) (events : List Event) : Text :=
  events.flatMap fun event => console.write source event.record

/-- What may be done with a console. -/
inductive Action where
  | setUp (level : Level) (useColours isTerminal : Bool)
  | tell (records : List Record)

namespace Action

/-- Tells events. -/
def ofEvents (events : List Event) : Action := .tell (events.map Event.record)

/-- Tells of the start of a step. -/
def progress (step : Text) : Action := ofEvents [.started step]

/-- Tells of a good end. -/
def success (outcome : Text) : Action := ofEvents [.succeeded outcome]

/-- Tells the header of a section. -/
def header (title : Text) : Action := ofEvents (Event.sectionHeader title)

end Action

/-- The console after an action, and what the action writes. -/
def perform (console : Console) : Action → Console × Text
  | .setUp level useColours isTerminal => (console.setUp level useColours isTerminal, [])
  | .tell records => (console, records.flatMap (console.write ""))

/-- The console after actions, and what each of them writes. -/
def performAll (console : Console) : List Action → Console × List Text
  | [] => (console, [])
  | action :: rest =>
    let (console, written) := console.perform action
    let (console, others) := console.performAll rest
    (console, written :: others)

end Console

end PrismaEsdl.Log
