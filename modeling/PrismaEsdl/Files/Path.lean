import PrismaEsdl.Text.CodePoint

/-!
Paths. A path is an anchor and the names after it. Empty names and single dots mean nothing and are
left out when a path is read; two dots are kept, since what they mean depends on the files that are
there.
-/

namespace PrismaEsdl.Files

/-- Where a path starts. -/
inductive Anchor where
  | workingDirectory
  | root
  /-- Exactly two slashes, which a system may treat in its own way. -/
  | doubleRoot
  deriving DecidableEq, Inhabited, Repr

def Anchor.toText : Anchor → Text
  | workingDirectory => ""
  | root => "/"
  | doubleRoot => "//"

/-- The way to a file. -/
structure Path where
  anchor : Anchor
  names : List Text
  deriving DecidableEq, Inhabited, Repr

namespace Path

def slash : CodePoint := .char '/'

/-- The anchor that a text starts with. -/
def anchorOf : Text → Anchor
  | .char '/' :: .char '/' :: .char '/' :: _ => .root
  | .char '/' :: .char '/' :: _ => .doubleRoot
  | .char '/' :: _ => .root
  | _ => .workingDirectory

/-- Whether a name between slashes means something. -/
def isName (name : Text) : Bool := !name.isEmpty && name != [.char '.']

/-- The path that a text writes. -/
def ofText (t : Text) : Path := ⟨anchorOf t, (Text.split slash t).filter isName⟩

/-- A path as a text; the working directory itself is a single dot. -/
def toText (path : Path) : Text :=
  match path.anchor, path.names with
  | .workingDirectory, [] => "."
  | anchor, names => anchor.toText ++ Text.join [slash] names

/-- The path without its last name. -/
def parent (path : Path) : Path := { path with names := path.names.dropLast }

/-- What follows the last dot of a name, with the dot. A dot that starts or ends the name is no
such dot. -/
def suffixOf (name : Text) : Text :=
  let after := (name.reverse.takeWhile (· != .char '.')).reverse
  let before := name.length - after.length
  if 1 < before ∧ !after.isEmpty then .char '.' :: after else []

/-- The suffix of the last name. -/
def suffix (path : Path) : Text :=
  match path.names.getLast? with
  | some name => suffixOf name
  | none => []

end Path

end PrismaEsdl.Files
