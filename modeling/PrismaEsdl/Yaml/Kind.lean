import PrismaEsdl.Yaml.Token

/-!
Kinds of nodes, and the tags that name them. A handle at the front of a tag stands for the
beginning of its name.
-/

namespace PrismaEsdl.Yaml

/-- The kinds of nodes. -/
inductive Kind where
  | null
  | bool
  | int
  | float
  /-- A date, or a date with a time of day. -/
  | moment
  | text
  | bytes
  | sequence
  | mapping
  /-- The keys of a mapping. -/
  | set
  /-- A sequence of mappings of one entry each. -/
  | pairs
  /-- The key of entries that are taken over from other mappings. -/
  | merge
  /-- The key of the content that stands for the whole mapping. -/
  | whole
  /-- A kind that has no meaning here. -/
  | unknown
  deriving DecidableEq, Inhabited, Repr

namespace Kind

/-- The beginning of the names of the kinds that every document may use. -/
def standard : Text := "tag:yaml.org,2002:"

/-- The names of kinds after their common beginning. -/
def names : List (Text × Kind) := [
  ("null", null), ("bool", bool), ("int", int), ("float", float), ("timestamp", moment),
  ("str", text), ("binary", bytes), ("seq", sequence), ("map", mapping), ("set", set),
  ("pairs", pairs), ("omap", pairs), ("merge", merge), ("value", whole)]

/-- The kind with a name. -/
def named (name : Text) : Kind :=
  match names.find? fun entry => standard ++ entry.1 = name with
  | some (_, kind) => kind
  | none => unknown

end Kind

/-! ### Tags -/

/-- What handles stand for. -/
abbrev Handles := List (Text × Text)

namespace Handles

/-- The handles that need no directive. -/
def default : Handles := [("!", "!"), ("!!", Kind.standard)]

/-- The handles that directives give, with the default ones after them. There is at most one
directive about the version, which has to be 1, and at most one about each handle. -/
def ofDirectives (versioned : Bool) (known : Handles) : List Directive → Except Fault Handles
  | [] => .ok (known ++ default)
  | .version major :: rest =>
    if versioned || major != 1 then .error .malformed else ofDirectives true known rest
  | .tagHandle handle beginning :: rest =>
    if known.any (·.1 = handle) then .error .malformed
    else ofDirectives versioned (known ++ [(handle, beginning)]) rest
  | .reserved :: rest => ofDirectives versioned known rest

/-- The name that a tag writes. -/
def name (handles : Handles) (written : WrittenTag) : Except Fault Text :=
  match written.handle with
  | none => .ok written.suffix
  | some handle =>
    match handles.find? (·.1 = handle) with
    | some (_, beginning) => .ok (beginning ++ written.suffix)
    | none => .error .malformed

end Handles

/-- What is written about the kind of a node. -/
inductive Tag where
  | absent
  /-- An exclamation mark alone: the kind is that of the form. -/
  | byForm
  | named (kind : Kind)

namespace Tag

/-- The tag that is written, its handle resolved. -/
def ofWritten (handles : Handles) (written : WrittenTag) : Except Fault Tag := do
  let name ← handles.name written
  return if name = "!" then .byForm else .named (.named name)

/-- The kind of a collection of some form. -/
def collectionKind (form : Kind) : Tag → Kind
  | absent | byForm => form
  | named kind => kind

end Tag

end PrismaEsdl.Yaml
