import PrismaEsdl.Calendar
import PrismaEsdl.Decimal.Binary64

/-!
Documents: what a JSON or YAML file holds.

An object keeps its entries in order. Its keys are documents too, since YAML allows numbers,
booleans and dates there; a number is the same key however it is written, and `true` and `false`
are the same keys as 1 and 0. An object never holds two entries with the same key if it is made by
`Document.ofEntries`: the first position and the last content stay.

A collection may contain itself. Such a collection has a label, and the places within it where it
stands again refer to the label. Taken out of a collection, its contents are closed: the places
that refer to the collection hold the whole of it, so that what is taken out has a meaning of its
own. Documents without labels are trees, and nothing has to be closed in them.
-/

namespace PrismaEsdl

/-- The kinds of collections that may contain themselves. -/
inductive Document.Shape where
  | list
  | object
  | tuple
  deriving DecidableEq, Inhabited, Repr

/-- The value of a document. -/
inductive Document where
  | null
  | bool (b : Bool)
  | int (i : Int)
  | float (x : Binary64)
  | text (t : Text)
  | bytes (b : List UInt8)
  | date (d : Date)
  | moment (m : Moment)
  | list (items : List Document)
  | tuple (items : List Document)
  | set (members : List Document)
  | object (entries : List (Document × Document))
  /-- A collection that contains itself. -/
  | labelled (label : Nat) (collection : Document)
  /-- The collection with a label, in a place within itself. -/
  | within (label : Nat) (shape : Document.Shape)
  deriving Inhabited

namespace Document

/-! ### Keys -/

/-- The integer that a key stands for, if it stands for one. -/
def keyInteger? : Document → Option Int
  | bool b => some (if b then 1 else 0)
  | int i => some i
  | _ => none

/-- Whether two keys are the same. What is no number is not even the same as itself. -/
def sameKey : Document → Document → Bool
  | null, null => true
  | float x, float y => (x != .notANumber && x == y) || (x.isZero && y.isZero)
  | text t, text u => t == u
  | bytes b, bytes c => b == c
  | date d, date e => d == e
  | moment m, moment n => m.isSame n
  | float x, key | key, float x =>
    match key.keyInteger? with
    | some i => x.isInteger i
    | none => false
  | key, other =>
    match key.keyInteger?, other.keyInteger? with
    | some i, some j => i == j
    | _, _ => false

/-- Puts a content under a key: in place if the key is there, else at the end. -/
def putEntry {κ α : Type} (same : κ → κ → Bool) (key : κ) (content : α) :
    List (κ × α) → List (κ × α)
  | [] => [(key, content)]
  | (known, old) :: rest =>
    if same known key then (known, content) :: rest
    else (known, old) :: putEntry same key content rest

/-- The object of a list of entries. -/
def ofEntries (entries : List (Document × Document)) : Document :=
  .object (entries.foldl (fun made (key, content) => putEntry sameKey key content made) [])

/-- The content under a text in a list of entries. -/
def lookup (name : Text) : List (Document × Document) → Option Document
  | [] => none
  | (.text key, content) :: rest => if key = name then some content else lookup name rest
  | _ :: rest => lookup name rest

/-! ### Collections that contain themselves -/

mutual

/-- A document with a collection in the places that refer to its label. -/
def close (label : Nat) (whole : Document) : Document → Document
  | within other shape => if other = label then whole else within other shape
  | labelled other collection =>
    if other = label then labelled other collection
    else labelled other (close label whole collection)
  | list items => list (closeItems label whole items)
  | tuple items => tuple (closeItems label whole items)
  | object entries => object (closeEntries label whole entries)
  | value => value

/-- Closes each of several documents. -/
def closeItems (label : Nat) (whole : Document) : List Document → List Document
  | [] => []
  | item :: rest => close label whole item :: closeItems label whole rest

/-- Closes the contents of entries; a key refers to nothing. -/
def closeEntries (label : Nat) (whole : Document) :
    List (Document × Document) → List (Document × Document)
  | [] => []
  | (key, content) :: rest => (key, close label whole content) :: closeEntries label whole rest

end

/-- The entries of an object, closed. -/
def entries? : Document → Option (List (Document × Document))
  | object entries => some entries
  | labelled label (object entries) =>
    some (closeEntries label (labelled label (object entries)) entries)
  | _ => none

/-- The items of a list, closed. -/
def items? : Document → Option (List Document)
  | list items => some items
  | labelled label (list items) => some (closeItems label (labelled label (list items)) items)
  | _ => none

/-! ### Kinds -/

/-- Whether a value counts as something: all but null, `false`, zero, and what is empty do. -/
def isSomething : Document → Bool
  | null => false
  | bool b => b
  | int i => i != 0
  | float x => !x.isZero
  | text t => !t.isEmpty
  | bytes b => !b.isEmpty
  | list items | tuple items | set items => !items.isEmpty
  | object entries => !entries.isEmpty
  | date _ | moment _ | labelled .. | within .. => true

/-- The name that messages use for the kind of a value. -/
def kindName : Document → Text
  | null => "NoneType"
  | bool _ => "bool"
  | int _ => "int"
  | float _ => "float"
  | text _ => "str"
  | bytes _ => "bytes"
  | date _ => "datetime.date"
  | moment _ => "datetime.datetime"
  | list _ | within _ .list => "list"
  | tuple _ | within _ .tuple => "tuple"
  | set _ => "set"
  | object _ | within _ .object => "dict"
  | labelled _ collection => collection.kindName

end Document

end PrismaEsdl
