import PrismaEsdl.Document.Set
import PrismaEsdl.Yaml.Graph.Reading
import PrismaEsdl.Yaml.Making

/-!
The documents that values stand for.

A collection becomes a document with the documents of what it contains. If it can be reached from
what it contains, it gets its number as a label, and it is referred to by the label in the places
within itself.
-/

namespace PrismaEsdl.Yaml

namespace Collection

/-- The numbers of the collections among some values. -/
def numbers (values : List Value) : List Nat :=
  values.filterMap fun
    | .collection number => some number
    | .atom _ => none

/-- The numbers of the collections in a collection. -/
def inner : Collection → List Nat
  | list items | tuple items => numbers items
  | object entries => numbers (entries.map Prod.snd)
  | set _ | unfilled _ => []

def shape : Collection → Document.Shape
  | tuple _ => .tuple
  | object _ => .object
  | list _ | set _ | unfilled _ => .list

end Collection

namespace Meaning

/-- The collections that can be reached from some of them, found in at most a number of rounds. -/
def reached (all : Array Collection) : Nat → List Nat → List Nat
  | 0, found => found
  | rounds + 1, found =>
    let inner := found.flatMap fun number => ((all[number]?.map Collection.inner).getD [])
    let others := (inner.filter fun number => !found.contains number).eraseDups
    if others.isEmpty then found else reached all rounds (found ++ others)

/-- The numbers of the collections that contain themselves. -/
def looped (all : Array Collection) : List Nat :=
  (List.range all.size).filter fun number =>
    (reached all all.size ((all[number]?.map Collection.inner).getD [])).contains number

/-- What makes documents, and keeps those of the collections that do not contain themselves. -/
abbrev Reader := StateM (Array (Option Document))

/-- The document of a value inside some collections that contain themselves. Every step enters a
collection that is not around it, so their number bounds the steps. -/
def document (all : Array Collection) (looped : List Nat) :
    Nat → List Nat → Value → Reader Document
  | _, _, .atom a => return a.value
  | 0, _, .collection _ => return .null
  | fuel + 1, around, .collection number => do
    let collection := all.getD number (.list [])
    if around.contains number then return .within number collection.shape
    if let some known := (← get).getD number none then return known
    let loops := looped.contains number
    let around := if loops then number :: around else around
    let made ← match collection with
      | .list items => .list <$> items.mapM (document all looped fuel around)
      | .tuple items => .tuple <$> items.mapM (document all looped fuel around)
      | .object entries => .object <$> entries.mapM fun (key, content) => do
        return (key.value, ← document all looped fuel around content)
      | .set members => pure (.ofMembers (members.map Atom.value))
      | .unfilled _ => pure .null
    if loops then return .labelled number made
    modify fun known => known.setIfInBounds number (some made)
    return made

/-- The document of the root of a graph. -/
def ofGraph (g : Graph) (root : Nat) : Except Fault Document := do
  let (value, all) ← Making.ofGraph g root
  let looped := if g.cyclic then looped all else []
  return ((document all looped (all.size + 1) [] value).run (.replicate all.size none)).1

end Meaning

/-- The document that a text stands for. A text without a document stands for null. -/
def read (limit : Nat) (stream : Stream) : Except Fault Document := do
  match ← Graph.ofStream? limit stream with
  | none => return .null
  | some (g, root) => Meaning.ofGraph g root

end PrismaEsdl.Yaml
