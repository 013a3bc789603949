import PrismaEsdl.Files.Path
import PrismaEsdl.Table
import PrismaEsdl.Text.Quoted
import PrismaEsdl.Text.Utf8

/-!
Trees of files: what is stored under which names, and what a look at a path finds.

A place is a list of names from the root on. The root and everything above the working directory
are directories, whatever else is stored.
-/

namespace PrismaEsdl.Files

/-- Why the system refuses to do something with a path. -/
inductive Refusal where
  | noEntry
  | exists
  | notADirectory
  | isADirectory
  | nameTooLong
  /-- Anything else, by the number and the words of the system. -/
  | other (number : Nat) (text : Text)
  deriving DecidableEq, Repr

namespace Refusal

def number : Refusal → Nat
  | noEntry => 2
  | «exists» => 17
  | notADirectory => 20
  | isADirectory => 21
  | nameTooLong => 36
  | other number _ => number

def text : Refusal → Text
  | noEntry => "No such file or directory"
  | «exists» => "File exists"
  | notADirectory => "Not a directory"
  | isADirectory => "Is a directory"
  | nameTooLong => "File name too long"
  | other _ text => text

/-- The message about a refusal, with the path it is about. -/
def message (refusal : Refusal) (path : Path) : Text :=
  "[Errno " ++ Text.ofNat refusal.number ++ "] " ++ refusal.text ++ ": " ++ path.toText.quoted

end Refusal

/-- What may be stored in a place. -/
inductive Entry where
  | directory
  | file (content : List UInt8)
  deriving DecidableEq

/-- Names from the root on. -/
abbrev Place := List Text

/-- A tree of files, and the place that relative paths start from. -/
structure Tree where
  entries : Table Place Entry
  workingDirectory : Place

/-! ### Names -/

/-- Whether a code point may stand in a name: not the one with number zero, and no surrogate that
does not stand for a single byte. -/
def isAllowedInName : CodePoint → Bool
  | .char c => c.toNat != 0
  | .surrogate offset => 0x480 ≤ offset.val && offset.val < 0x500

/-- The number of bytes that a code point takes in a name. -/
def sizeInName : CodePoint → Nat
  | .char c => c.utf8Size
  | .surrogate _ => 1

/-- The number of bytes that a text takes in a name. -/
def size : Text → Nat
  | [] => 0
  | p :: rest => sizeInName p + size rest

/-- The greatest size of a name. -/
def greatestNameSize : Nat := 255

/-- The greatest size of a path. -/
def greatestPathSize : Nat := 4095

/-- Whether a path may be given to the system. -/
def Path.isAllowed (path : Path) : Bool := path.toText.all isAllowedInName

namespace Tree

/-- What is stored in a place. -/
def get? (tree : Tree) (place : Place) : Option Entry :=
  if place.isPrefixOf tree.workingDirectory then some .directory else tree.entries.get? place

/-- The same tree with an entry in a place. -/
def put (tree : Tree) (place : Place) (entry : Entry) : Tree :=
  { tree with entries := tree.entries.insert place entry }

/-- Where a path starts. -/
def start (tree : Tree) (path : Path) : Place :=
  match path.anchor with
  | .workingDirectory => tree.workingDirectory
  | .root | .doubleRoot => []

/-- The place after one more name, which need not hold anything. Two dots lead one place up. -/
def step (tree : Tree) (place : Place) (name : Text) : Except Refusal Place :=
  match tree.get? place with
  | none => .error .noEntry
  | some (.file _) => .error .notADirectory
  | some .directory =>
    if name = ".." then .ok place.dropLast
    else if greatestNameSize < size name then .error .nameTooLong
    else .ok (place ++ [name])

/-- The place that a path leads to; all names but the last one have to be those of directories. -/
def locate (tree : Tree) (path : Path) : Except Refusal Place :=
  if greatestPathSize < size path.toText then .error .nameTooLong
  else path.names.foldlM tree.step (tree.start path)

/-- The entry that a path leads to. -/
def entry (tree : Tree) (path : Path) : Except Refusal Entry := do
  match tree.get? (← tree.locate path) with
  | some entry => return entry
  | none => .error .noEntry

end Tree

/-- What is found by looking for a file. -/
inductive Finding where
  | file (content : List UInt8)
  /-- Something else is there, or nothing. -/
  | noFile
  /-- The system refuses to look. -/
  | refused (refusal : Refusal)
  deriving DecidableEq

/-- Looks for a file. A path that the system cannot be given leads to no file. -/
def Tree.find (tree : Tree) (path : Path) : Finding :=
  if !path.isAllowed then .noFile
  else match tree.entry path with
    | .ok (.file content) => .file content
    | .ok .directory | .error .noEntry | .error .notADirectory => .noFile
    | .error refusal => .refused refusal

end PrismaEsdl.Files
