import PrismaEsdl.Document.Display

/-!
Values that a Prisma schema writes as attribute arguments and field types, and the forms in which
messages and names show them. `display` writes a call as it stands in the schema, `quoted` names
the kind of the value; a list or a keyed value has only its quoted form.

A value is not shown if an integer in it has too many digits, or if it nests more deeply than there
is room: in its quoted form a list or a call takes four nested calls and a keyed value three, and a
call as it stands takes four as well.
-/

namespace PrismaEsdl.Prisma

/-- The value of an attribute argument or of a field type. -/
inductive Value where
  | null
  | text (t : Text)
  | bool (b : Bool)
  | int (i : Int)
  | float (x : Binary64)
  /-- A call such as `now()` or `Unsupported("circle")`. -/
  | call (name : Text) (arguments : List Value)
  /-- A named argument such as `fields: [authorId]`. -/
  | keyed (key : Text) (value : Value)
  /-- A bracketed list such as `[authorId]`. -/
  | list (items : List Value)
  deriving Inhabited

namespace Value

open Document (rowText plainly numeral)

mutual

/-- A value with its texts in quotes and its kind named. -/
def quoted (room : Nat) : Value → Except Excess Text
  | null => plainly room "None"
  | text t => plainly room t.quoted
  | bool b => plainly room (Document.boolText b)
  | int i => numeral room i
  | float x => plainly room (x.toText .plain)
  | call name arguments => do
    Stack.enter 4 room
    let shown ← quotedItems (room - 4) arguments
    return "FunctionCall(name=" ++ name.quoted ++ ", params=" ++ rowText shown ++ ")"
  | keyed key value => do
    Stack.enter 4 room
    let shown ← value.quoted (room - 3)
    return "KeyValue(key=" ++ key.quoted ++ ", value=" ++ shown ++ ")"
  | list items => do
    Stack.enter 4 room
    return "ArrayValue(args=" ++ rowText (← quotedItems (room - 4) items) ++ ")"

def quotedItems (room : Nat) : List Value → Except Excess (List Text)
  | [] => .ok []
  | item :: rest => return (← item.quoted room) :: (← quotedItems room rest)

end

mutual

/-- A value as it stands. -/
def display (room : Nat) : Value → Except Excess Text
  | text t => .ok t
  | call name arguments => do
    Stack.enter 4 room
    return name ++ "(" ++ Text.join ", " (← displayItems (room - 4) arguments) ++ ")"
  | null => plainly room "None"
  | bool b => plainly room (Document.boolText b)
  | int i => numeral room i
  | float x => plainly room (x.toText .plain)
  | keyed key value => (keyed key value).quoted room
  | list items => (list items).quoted room

def displayItems (room : Nat) : List Value → Except Excess (List Text)
  | [] => .ok []
  | item :: rest => return (← item.display room) :: (← displayItems room rest)

end

end Value

end PrismaEsdl.Prisma
