import PrismaEsdl.Prisma.Schema

/-!
Reading a schema from the document of its syntax tree.

A node is an object with a text under `type`. A list of children may be missing; anything that is
null, false, zero or empty counts as missing, a text gives its code points and an object its keys.
What is wrong in a document is either a fault that is reported, with the kind of node it was met
in, or a value of a kind that cannot be used as the reader uses it. The first fault in document
order is the one given.

A collection that contains itself is read like any other as long as the reader does not have to
read the whole of it as a value; then there is no end to reading it, and no room is large enough.

Values are read as long as there is room: a list, a call or an array takes two nested calls for what
is in it and a keyed value takes one, and a fault is reported by a few calls more. Elsewhere the
depth of a document does not matter, since nothing else is read for its parts.
-/

namespace PrismaEsdl.Prisma

/-- What may be wrong with a node. -/
inductive Malformation where
  | notASchema
  | noDeclarations
  | untyped (expected : Text)
  | missing (node key : Text)
  | unsupportedFieldType (field : Text)
  | noFieldType (field : Text)
  | noArgumentValue
  | unsupportedValue (shown : Text)

namespace Malformation

def message : Malformation → Text
  | notASchema => "Top-level node must be of type 'schema'"
  | noDeclarations => "Schema node has no 'list' of declarations"
  | untyped expected => "Expected a " ++ expected ++ " node with a 'type'"
  | missing node key => "Node '" ++ node ++ "' is missing '" ++ key ++ "'"
  | unsupportedFieldType field => "Unsupported field type node on field '" ++ field ++ "'"
  | noFieldType field => "Field '" ++ field ++ "' has no fieldType"
  | noArgumentValue => "Attribute argument has no 'value'"
  | unsupportedValue shown => "Unsupported argument value: " ++ shown

/-- The kind of node that the fault was met in. -/
def node : Malformation → Text
  | notASchema | noDeclarations => "schema"
  | untyped expected => expected
  | missing node _ => node
  | unsupportedFieldType _ | noFieldType _ => "field"
  | noArgumentValue => "attributeArgument"
  | unsupportedValue _ => "value"

end Malformation

/-- Why a document is not read. -/
inductive ReadingError where
  /-- A fault that is reported as one of the document. -/
  | malformed (fault : Malformation)
  /-- A value of a kind that has no elements, in the place of a list. -/
  | noElements (kind : Text)
  /-- A value of a kind that has no entries, in the place of an attribute. -/
  | noEntries (kind : Text)
  /-- A value that goes beyond what can be read or shown. -/
  | excessive (excess : Excess)

/-- What is said about an error. -/
def ReadingError.message : ReadingError → Text
  | malformed fault => fault.message
  | noElements kind => "'" ++ kind ++ "' object is not iterable"
  | noEntries kind => "'" ++ kind ++ "' object has no attribute 'get'"
  | excessive excess => excess.message

namespace Reading

/-- A reading gives a value or the first error. -/
abbrev Result (α : Type) := Except ReadingError α

def fault {α : Type} (m : Malformation) : Result α := .error (.malformed m)

/-- Takes over what is read or shown within the limits. -/
def limited {α : Type} (outcome : Except Excess α) : Result α := outcome.mapError .excessive

/-- The fault of a nested value, which takes some calls to be reported. -/
def faultIn {α : Type} (calls room : Nat) (m : Malformation) : Result α := do
  limited (Stack.enter calls room)
  fault m

/-- The text under a key, if there is one and it is not empty. -/
def textUnder? (key : Text) (entries : List (Document × Document)) : Option Text :=
  match Document.lookup key entries with
  | some (.text (p :: rest)) => some (p :: rest)
  | _ => none

/-- The text under a key, which must be there and not be empty. -/
def requiredText (node key : Text) (entries : List (Document × Document)) : Result Text :=
  match textUnder? key entries with
  | some t => .ok t
  | none => fault (.missing node key)

/-- The children that a value in the place of a list stands for. -/
def elements : Document → Result (List Document)
  | .text t => .ok (t.map fun p => .text [p])
  | .bytes b => .ok (b.map fun byte => .int byte.toNat)
  | .tuple items | .set items => .ok items
  | document =>
    match document.items?, document.entries? with
    | some items, _ => .ok items
    | _, some entries => .ok (entries.map Prod.fst)
    | none, none =>
      if document.isSomething then .error (.noElements document.kindName) else .ok []

/-- The children under a key. -/
def elementsUnder (key : Text) (entries : List (Document × Document)) : Result (List Document) :=
  match Document.lookup key entries with
  | some value => elements value
  | none => .ok []

/-! ### Values -/

/-- The collections around a place that contain themselves, by label, the innermost first. -/
abbrev Surroundings := List (Nat × Document)

/-- A document at a place, closed. -/
def closed (around : Surroundings) (document : Document) : Document :=
  around.foldl (fun document (label, whole) => Document.close label whole document) document

/-- The fault of a value of an unknown kind. -/
def unsupported (room : Nat) (value : Document) : Result Value := do
  let shown ← limited (value.quoted room)
  faultIn 4 room (.unsupportedValue shown)

/-- Reads a value without parts: a boolean is the token that writes it. -/
def simpleValue (room : Nat) : Document → Result Value
  | .null => .ok .null
  | .bool b => .ok (.text (if b then "true" else "false"))
  | .int i => .ok (.int i)
  | .float x => .ok (.float x)
  | .text t => .ok (.text t)
  | other => unsupported room other

/-- The text under a key of a nested value. -/
def innerText (room : Nat) (node key : Text) (entries : List (Document × Document)) :
    Result Text :=
  match textUnder? key entries with
  | some t => .ok t
  | none => faultIn 5 room (.missing node key)

/-- The value that an object stands for, from what is read under its keys. -/
def objectValue (room : Nat) (whole : Document) (entries : List (Document × Document))
    (params arguments : Result (List Value)) (content : Result Value) : Result Value :=
  match Document.lookup "type" entries with
  | some (.text kind) =>
    if kind = "function" then do
      let name ← innerText room "function" "name" entries
      limited (Stack.enter 3 room)
      return .call name (← params)
    else if kind = "keyValue" then do
      let key ← innerText room "keyValue" "key" entries
      limited (Stack.enter 3 room)
      return .keyed key (← content)
    else if kind = "array" then do
      limited (Stack.enter 3 room)
      return .list (← arguments)
    else unsupported room whole
  | _ => unsupported room whole

/-- Reads as values the keys of the collection with a label; only an object has some. -/
def keyValues (room : Nat) (around : Surroundings) (label : Nat) : Result (List Value) :=
  match (around.lookup label).bind Document.entries? with
  | some entries => entries.mapM fun entry => simpleValue room entry.1
  | none => .error (.excessive .depth)

mutual

/-- Reads the value of an argument inside of some collections. -/
def value (room : Nat) (around : Surroundings) : Document → Result Value
  | .list items => do
    limited (Stack.enter 3 room)
    return .list (← values (room - 2) around items)
  | .labelled label (.list items) => do
    limited (Stack.enter 3 room)
    return .list (← values (room - 2) ((label, .labelled label (.list items)) :: around) items)
  | .object entries =>
    objectValue room (closed around (.object entries)) entries
      (valuesUnder (room - 2) around "params" entries)
      (valuesUnder (room - 2) around "args" entries) (valueUnder (room - 1) around "value" entries)
  | .labelled label (.object entries) =>
    let whole := Document.labelled label (.object entries)
    objectValue room (closed around whole) entries
      (valuesUnder (room - 2) ((label, whole) :: around) "params" entries)
      (valuesUnder (room - 2) ((label, whole) :: around) "args" entries)
      (valueUnder (room - 1) ((label, whole) :: around) "value" entries)
  | .within .. => .error (.excessive .depth)
  | other => simpleValue room (closed around other)

/-- Reads each of several values. -/
def values (room : Nat) (around : Surroundings) : List Document → Result (List Value)
  | [] => .ok []
  | item :: rest => return (← value room around item) :: (← values room around rest)

/-- Reads the value under a key; it is null where there is none. -/
def valueUnder (room : Nat) (around : Surroundings) (key : Text) :
    List (Document × Document) → Result Value
  | [] => .ok .null
  | (.text name, content) :: rest =>
    if name = key then value room around content else valueUnder room around key rest
  | _ :: rest => valueUnder room around key rest

/-- Reads the children under a key as values. -/
def valuesUnder (room : Nat) (around : Surroundings) (key : Text) :
    List (Document × Document) → Result (List Value)
  | [] => .ok []
  | (.text name, content) :: rest =>
    if name = key then elementValues room around content else valuesUnder room around key rest
  | _ :: rest => valuesUnder room around key rest

/-- Reads as values the children that a value in the place of a list stands for. -/
def elementValues (room : Nat) (around : Surroundings) : Document → Result (List Value)
  | .list items | .tuple items | .set items => values room around items
  | .labelled label (.list items) =>
    values room ((label, .labelled label (.list items)) :: around) items
  | .within label _ => keyValues room around label
  | other => do (← elements other).mapM (simpleValue room)

end

/-! ### Nodes -/

/-- The type and the entries of a node. -/
def node (expected : Text) (document : Document) : Result (Text × List (Document × Document)) :=
  match document.entries? with
  | some entries =>
    match Document.lookup "type" entries with
    | some (.text kind) => .ok (kind, entries)
    | _ => fault (.untyped expected)
  | none => fault (.untyped expected)

/-- What stands under a key as it is shown; the empty text where there is nothing. -/
def shownUnder (room : Nat) (key : Text) (entries : List (Document × Document)) : Result Text :=
  match Document.lookup key entries with
  | some value => limited (value.display room)
  | none => .ok ""

/-- Whether something stands under a key. -/
def flagUnder (key : Text) (entries : List (Document × Document)) : Bool :=
  match Document.lookup key entries with
  | some value => value.isSomething
  | none => false

/-- Reads an argument: an object with the value under `value`. -/
def argument (room : Nat) (document : Document) : Result Value :=
  match document.entries?.bind (Document.lookup "value") with
  | some content => value room [] content
  | none => fault .noArgumentValue

/-- Reads the name and the arguments of an attribute. -/
def attributeOf (room : Nat) (entries : List (Document × Document)) :
    Result AttributeDeclaration := do
  let name ← requiredText "attribute" "name" entries
  let arguments ← (← elementsUnder "args" entries).mapM (argument room)
  return { name, arguments }

/-- Reads an attribute of a field, which needs no type. -/
def fieldAttribute (room : Nat) (document : Document) : Result AttributeDeclaration :=
  match document.entries? with
  | some entries => attributeOf room entries
  | none => .error (.noEntries document.kindName)

/-- Reads the type of a field: a name or a call. -/
def fieldType (room : Nat) (field : Text) (entries : List (Document × Document)) :
    Result Value :=
  match Document.lookup "fieldType" entries with
  | some (.text (p :: rest)) => .ok (.text (p :: rest))
  | some document =>
    if document.entries?.isSome then do
      match ← value room [] document with
      | .call name arguments => return .call name arguments
      | _ => fault (.unsupportedFieldType field)
    else fault (.noFieldType field)
  | none => fault (.noFieldType field)

section

variable (stack : Stack)

def field (entries : List (Document × Document)) : Result FieldDeclaration := do
  let name ← requiredText "field" "name" entries
  let type ← fieldType (stack.room .fieldType) name entries
  let attributes ←
    (← elementsUnder "attributes" entries).mapM (fieldAttribute (stack.room .fieldArgument))
  return { name, type, array := flagUnder "array" entries,
           optional := flagUnder "optional" entries, attributes }

def property (document : Document) : Result Property := do
  let (kind, entries) ← node "property" document
  if kind = "field" then return .field (← field stack entries)
  else if kind = "attribute" then
    return .blockAttribute (← attributeOf (stack.room .blockArgument) entries)
  else return .comment (← shownUnder (stack.room .innerText) "text" entries)

def enumItem (document : Document) : Result EnumItem := do
  let (kind, entries) ← node "enumerator" document
  if kind = "enumerator" then return .value (← requiredText "enumerator" "name" entries)
  else return .comment (← shownUnder (stack.room .innerText) "text" entries)

def declaration (document : Document) : Result Declaration := do
  let (kind, entries) ← node "block" document
  if kind = "enum" then do
    let name ← requiredText "enum" "name" entries
    return .enum name (← (← elementsUnder "enumerators" entries).mapM (enumItem stack))
  else if kind = "model" then do
    let name ← requiredText "model" "name" entries
    return .model name (← (← elementsUnder "properties" entries).mapM (property stack))
  else if kind = "comment" then
    return .comment (← shownUnder (stack.room .blockText) "text" entries)
  else return .other kind (← shownUnder (stack.room .blockText) "name" entries)

end

end Reading

/-- The entries of the object that a schema is. -/
def Reading.schemaEntries (document : Document) : Result (List (Document × Document)) :=
  match document.entries? with
  | some entries =>
    match Document.lookup "type" entries with
    | some (.text kind) => if kind = "schema" then .ok entries else fault .notASchema
    | _ => fault .notASchema
  | none => fault .notASchema

/-- Reads the document of a syntax tree. -/
def Schema.ofDocument (stack : Stack) (document : Document) : Except ReadingError Schema := do
  let entries ← Reading.schemaEntries document
  match (Document.lookup "list" entries).bind Document.items? with
  | some blocks => return ⟨← blocks.mapM (Reading.declaration stack)⟩
  | none => Reading.fault .noDeclarations

end PrismaEsdl.Prisma
