import PrismaEsdl.Files.Tree

/-!
Writing a text to a file: first the directories above it are made, then the file is opened, which
empties it, and then the text is written. What was done before a failure stays done.
-/

namespace PrismaEsdl.Files

/-- Why a text is not written. -/
inductive WritingError where
  /-- The system refuses to make or open what is at a path. -/
  | refused (refusal : Refusal) (path : Path)
  /-- The path cannot be given to the system. -/
  | invalidPath
  /-- The text has no bytes. -/
  | unencodable
  deriving DecidableEq, Repr

namespace Tree

/-- Makes a directory in a place where nothing is. -/
def makeDirectory (tree : Tree) (path : Path) : Except Refusal Tree := do
  let place ← tree.locate path
  match tree.get? place with
  | some _ => .error .exists
  | none => return tree.put place .directory

/-- Makes a directory unless it is there. -/
def ensureOne (tree : Tree) (path : Path) : Except Refusal Tree :=
  match tree.makeDirectory path with
  | .ok tree => .ok tree
  | .error refusal =>
    match tree.entry path with
    | .ok .directory => .ok tree
    | _ => .error refusal

/-- Makes a directory and those above it, the path of which is its first names, unless they are
there. The tree is the one after the last directory that could be made. -/
def ensureNames (anchor : Anchor) : (reversed : List Text) → Tree → Option WritingError × Tree
  | [], tree =>
    let path : Path := ⟨anchor, []⟩
    match tree.ensureOne path with
    | .ok tree => (none, tree)
    | .error refusal => (some (.refused refusal path), tree)
  | name :: above, tree =>
    let path : Path := ⟨anchor, (name :: above).reverse⟩
    match tree.makeDirectory path with
    | .error .noEntry =>
      match ensureNames anchor above tree with
      | (some error, tree) => (some error, tree)
      | (none, tree) =>
        match tree.ensureOne path with
        | .ok tree => (none, tree)
        | .error refusal => (some (.refused refusal path), tree)
    | _ =>
      match tree.ensureOne path with
      | .ok tree => (none, tree)
      | .error refusal => (some (.refused refusal path), tree)

/-- Makes a directory and those above it unless they are there. -/
def ensureDirectory (tree : Tree) (path : Path) : Option WritingError × Tree :=
  if path.isAllowed then ensureNames path.anchor path.names.reverse tree
  else (some .invalidPath, tree)

/-- Opens a file for writing: it is made if it is not there, and emptied. -/
def openFile (tree : Tree) (path : Path) : Except WritingError Place :=
  if !path.isAllowed then .error .invalidPath
  else match tree.locate path with
    | .error refusal => .error (.refused refusal path)
    | .ok place =>
      match tree.get? place with
      | some .directory => .error (.refused .isADirectory path)
      | some (.file _) | none => .ok place

/-- Writes a text to a file, and tells why it could not be written, if it could not. -/
def write (tree : Tree) (path : Path) (t : Text) : Option WritingError × Tree :=
  match tree.ensureDirectory path.parent with
  | (some error, tree) => (some error, tree)
  | (none, tree) =>
    match tree.openFile path with
    | .error error => (some error, tree)
    | .ok place =>
      match Text.Utf8.encode? t with
      | some content => (none, tree.put place (.file content))
      | none => (some .unencodable, tree.put place (.file []))

end Tree

end PrismaEsdl.Files
