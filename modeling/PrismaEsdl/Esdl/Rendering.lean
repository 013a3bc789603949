import PrismaEsdl.Esdl.Schema

/-!
The text of a schema: a module that holds one block for each enum and each object type, with an
empty line between blocks. A pointer takes one line, or a block where it has a constraint or a
default.
-/

namespace PrismaEsdl.Esdl

/-- The lines of parts one after the other. Whether an empty line stands before a part depends on
whether it is the first one. -/
def loopLines {α : Type} (isSpaced : (first : Bool) → Bool) (part : α → List Text) :
    (first : Bool) → List α → List Text
  | _, [] => []
  | first, a :: rest =>
    (if isSpaced first then [[]] else []) ++ part a ++ loopLines isSpaced part false rest

/-- Lines, each closed by a line feed. -/
def unlines (lines : List Text) : Text := lines.flatMap (· ++ "\n")

namespace Pointer

/-- What stands before the end of the first line of a pointer. -/
def head (name : Text) (pointer : Pointer) : Text :=
  let required : Text := if pointer.isRequired then "required " else ""
  let multi : Text := if pointer.isMulti then "multi " else ""
  "    " ++ required ++ multi ++ pointer.kind.keyword ++ " " ++ name ++ " -> " ++ pointer.type

def constraintLine : Text := "      constraint exclusive;"

def defaultLine (value : Text) : Text := "      default := " ++ value ++ ";"

/-- The lines inside the block of a pointer. -/
def blockLines (pointer : Pointer) : List Text :=
  (if pointer.exclusive then [constraintLine] else []) ++ pointer.default.toList.map defaultLine

def blockEnd : Text := "    \x7d;"

def lines (name : Text) (pointer : Pointer) : List Text :=
  if pointer.hasBlock then
    (pointer.head name ++ " \x7b") :: pointer.blockLines ++ [blockEnd]
  else [pointer.head name ++ ";"]

end Pointer

def Backlink.line (name : Text) (backlink : Backlink) : Text :=
  let multi : Text := if backlink.multi then "multi " else ""
  "    " ++ multi ++ "link " ++ name ++ " := " ++ backlink.expression ++ ";"

def enumLine (name : Text) (values : List Text) : Text :=
  "  scalar type " ++ name ++ " extending enum<" ++ Text.join ", " values ++ ">;"

def typeHead (name : Text) : Text := "  type " ++ name ++ " \x7b"

def typeEnd : Text := "  \x7d"

def ObjectType.lines (name : Text) (type : ObjectType) : List Text :=
  typeHead name
    :: type.storedPointers.flatMap (fun (pointerName, pointer) => pointer.lines pointerName)
    ++ type.backlinks.entries.map (fun (linkName, backlink) => backlink.line linkName)
    ++ [typeEnd]

def moduleHead (name : Text) : Text := "module " ++ name ++ " \x7b"

def moduleEnd : Text := "\x7d"

namespace Schema

/-- The enums of a schema; an empty line stands before each but the first. -/
def enumLines (schema : Schema) : List Text :=
  loopLines (fun first => !first) (fun entry => [enumLine entry.1 entry.2]) true
    schema.enums.entries

/-- The types of a schema; an empty line stands before each but the first, and before the first as
well if there are enums. -/
def typeLines (schema : Schema) : List Text :=
  loopLines (fun first => !schema.enums.entries.isEmpty || !first)
    (fun entry => entry.2.lines entry.1) true schema.types.entries

/-- The lines of a schema in a module. -/
def lines (schema : Schema) (moduleName : Text) : List Text :=
  moduleHead moduleName :: schema.enumLines ++ schema.typeLines ++ [moduleEnd]

/-- The text of a schema in a module. -/
def render (schema : Schema) (moduleName : Text) : Text := unlines (schema.lines moduleName)

end Schema

end PrismaEsdl.Esdl
