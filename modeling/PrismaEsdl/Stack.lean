import PrismaEsdl.Text.CodePoint

/-!
The room that a run has for nested work.

Values and documents nest, and what reads or shows one calls itself for its parts. The system allows
calls to be nested up to a limit only, and the nodes of a file as well; what nests more deeply is
refused, well-formed as it is. How much is left of the limit is up to what a run is part of, so it
is a parameter: everything that is said about a run holds for every stack. Only calls that nest with
the data are counted; that a stack has room for all others is taken for granted.
-/

namespace PrismaEsdl

/-- What a value has too much of to be read or shown. -/
inductive Excess where
  /-- Parts within parts. -/
  | depth
  /-- Digits of an integer. -/
  | digits
  deriving DecidableEq, Inhabited, Repr

/-- What the system says about a value that it refuses. -/
def Excess.message : Excess → Text
  | depth => "maximum recursion depth exceeded"
  | digits => "Exceeds the limit (4300 digits) for integer string conversion"

/-- What is left to a run of the limits of the system. -/
structure Stack where
  /-- The number of collections that may stand around a node of a file. -/
  nodes : Nat
  /-- The number of calls that may be nested in one step of the run. -/
  calls : Nat
  deriving DecidableEq, Repr

namespace Stack

/-- What a limit of a thousand nested calls leaves to a session. -/
def usual : Stack := ⟨488, 990⟩

/-- A place in the program where something nested is read or shown. -/
inductive Site where
  /-- The text of a comment between blocks, or the name of a block, is shown. -/
  | blockText
  /-- The text of a comment inside a block is shown. -/
  | innerText
  /-- The type of a field is read. -/
  | fieldType
  /-- The value of an argument of a block attribute is read. -/
  | blockArgument
  /-- The value of an argument of a field attribute is read. -/
  | fieldArgument
  /-- The name of a type that is no call is shown. -/
  | typeName
  /-- The whole of what a relation says under a key is shown. -/
  | relationValue
  /-- An item of a list under a key of a relation is shown. -/
  | relationItem
  /-- The type in an error is shown. -/
  | misplacedType
  /-- A default that is dropped and the type of its field are shown. -/
  | droppedDefault
  deriving DecidableEq, Repr

/-- The calls between the step of a run and a site in it. -/
def Site.calls : Site → Nat
  | blockText => 4
  | innerText => 6
  | fieldType => 8
  | blockArgument => 8
  | fieldArgument => 10
  | typeName => 5
  | relationValue => 8
  | relationItem => 9
  | misplacedType => 3
  | droppedDefault => 5

/-- The room at a site: the number of calls that may be nested there. -/
def room (stack : Stack) (site : Site) : Nat := stack.calls - site.calls

/-- Makes sure that there is room for some nested calls. -/
def enter (calls room : Nat) : Except Excess Unit :=
  if calls ≤ room then .ok () else .error .depth

theorem enter_eq_ok_iff {calls room : Nat} : enter calls room = .ok () ↔ calls ≤ room := by
  unfold enter
  split <;> simp_all

theorem enter_of_le {calls room : Nat} (fits : calls ≤ room) : enter calls room = .ok () :=
  enter_eq_ok_iff.2 fits

theorem enter_of_lt {calls room : Nat} (exceeds : room < calls) :
    enter calls room = .error .depth := by
  rw [enter, if_neg (by omega)]

end Stack

end PrismaEsdl
