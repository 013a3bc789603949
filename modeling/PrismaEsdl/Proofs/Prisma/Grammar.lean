import PrismaEsdl.Proofs.Prisma.Value

/-!
The grammar of the documents that are read as schemas, and the places where reading derails.

A schema is an object with a list of blocks, an enum has a row of values, a model a row of fields
and attributes, a field a type and a row of attributes, an attribute a row of arguments. Each row
may be missing, and whatever counts as nothing counts as missing. Values may nest as deeply as there
is room for at their place. A node of a kind that has no meaning of its own is passed over; it keeps
a text that is shown from it, and what has to hold of that text is left open (`shown`).

For every node that may be accepted there is a condition under which reading it derails. It always
says that what is read before is accepted.
-/

namespace PrismaEsdl.Prisma.Reading

open Document (lookup)

/-- An object with a kind. -/
def IsNode (kind : Text) (entries : List (Document × Document)) (document : Document) : Prop :=
  document = .object entries ∧ HasType kind entries

/-- Whether what stands at a site can be shown: a text as it is, all else if it fits. -/
def IsShown (stack : Stack) (site : Stack.Site) (document : Document) : Prop :=
  (∃ t, document = .text t) ∨ document.Fits (stack.room site)

/-! ### Attributes -/

section

variable (room : Nat)

/-- An argument of an attribute: an object with a value. -/
def IsArgument (document : Document) : Prop :=
  ∃ entries, document = .object entries ∧ ∃ content ∈ lookup "value" entries, IsValue room content

def DerailsArgument (document : Document) : Prop :=
  ∃ entries, document = .object entries ∧
    ∃ content ∈ lookup "value" entries, DerailsValue room content

/-- The entries of an attribute: a name and arguments. -/
def IsAttribute (entries : List (Document × Document)) : Prop :=
  HasText "name" entries ∧ ∀ row ∈ lookup "args" entries, row.IsListOf (IsArgument room)

def DerailsAttribute (entries : List (Document × Document)) : Prop :=
  HasText "name" entries ∧ ∃ row ∈ lookup "args" entries,
    RowDerails (IsArgument room) (DerailsArgument room) row

/-- An attribute of a field, which needs no kind. -/
def IsFieldAttribute (document : Document) : Prop :=
  ∃ entries, document = .object entries ∧ IsAttribute room entries

/-- Reading an attribute of a field derails if it is no object. -/
def DerailsFieldAttribute (document : Document) : Prop :=
  ∀ entries, document = .object entries → DerailsAttribute room entries

/-! ### Fields -/

/-- The type of a field: a name or a call. -/
def IsFieldType (document : Document) : Prop :=
  (∃ t, t ≠ [] ∧ document = .text t) ∨
    ∃ entries, IsNode "function" entries document ∧ IsValue room document

def DerailsFieldType (document : Document) : Prop :=
  ∃ entries, document = .object entries ∧ DerailsValue room document

end

section

variable (stack : Stack)

/-- The entries of a field: a name, a type and attributes. -/
def IsField (entries : List (Document × Document)) : Prop :=
  HasText "name" entries ∧
    (∃ type ∈ lookup "fieldType" entries, IsFieldType (stack.room .fieldType) type) ∧
      ∀ row ∈ lookup "attributes" entries,
        row.IsListOf (IsFieldAttribute (stack.room .fieldArgument))

def DerailsField (entries : List (Document × Document)) : Prop :=
  HasText "name" entries ∧
    ((∃ type ∈ lookup "fieldType" entries, DerailsFieldType (stack.room .fieldType) type) ∨
      (∃ type ∈ lookup "fieldType" entries, IsFieldType (stack.room .fieldType) type) ∧
        ∃ row ∈ lookup "attributes" entries, RowDerails
          (IsFieldAttribute (stack.room .fieldArgument))
          (DerailsFieldAttribute (stack.room .fieldArgument)) row)

/-! ### Blocks -/

section

variable (shown : Stack.Site → Document → Prop)

/-- What may stand in a model. -/
def IsProperty (document : Document) : Prop :=
  ∃ kind entries, IsNode kind entries document ∧
    if kind = "field" then IsField stack entries
    else if kind = "attribute" then IsAttribute (stack.room .blockArgument) entries
    else ∀ content ∈ lookup "text" entries, shown .innerText content

/-- What may stand in an enum. -/
def IsEnumItem (document : Document) : Prop :=
  ∃ kind entries, IsNode kind entries document ∧
    if kind = "enumerator" then HasText "name" entries
    else ∀ content ∈ lookup "text" entries, shown .innerText content

/-- What may stand at the top of a schema. -/
def IsDeclaration (document : Document) : Prop :=
  ∃ kind entries, IsNode kind entries document ∧
    if kind = "enum" then
      HasText "name" entries ∧
        ∀ row ∈ lookup "enumerators" entries, row.IsListOf (IsEnumItem shown)
    else if kind = "model" then
      HasText "name" entries ∧
        ∀ row ∈ lookup "properties" entries, row.IsListOf (IsProperty stack shown)
    else if kind = "comment" then ∀ content ∈ lookup "text" entries, shown .blockText content
    else ∀ content ∈ lookup "name" entries, shown .blockText content

/-- What is read as a schema. -/
def IsSchema (document : Document) : Prop :=
  ∃ entries, IsNode "schema" entries document ∧
    ∃ blocks, .list blocks ∈ lookup "list" entries ∧
      ∀ block ∈ blocks, IsDeclaration stack shown block

end

def DerailsProperty (document : Document) : Prop :=
  ∃ kind entries, IsNode kind entries document ∧
    if kind = "field" then DerailsField stack entries
    else if kind = "attribute" then DerailsAttribute (stack.room .blockArgument) entries
    else ∃ content ∈ lookup "text" entries, ¬ IsShown stack .innerText content

def DerailsEnumItem (document : Document) : Prop :=
  ∃ kind entries, IsNode kind entries document ∧ kind ≠ "enumerator" ∧
    ∃ content ∈ lookup "text" entries, ¬ IsShown stack .innerText content

def DerailsDeclaration (document : Document) : Prop :=
  ∃ kind entries, IsNode kind entries document ∧
    if kind = "enum" then
      HasText "name" entries ∧ ∃ row ∈ lookup "enumerators" entries,
        RowDerails (IsEnumItem (IsShown stack)) (DerailsEnumItem stack) row
    else if kind = "model" then
      HasText "name" entries ∧ ∃ row ∈ lookup "properties" entries,
        RowDerails (IsProperty stack (IsShown stack)) (DerailsProperty stack) row
    else if kind = "comment" then
      ∃ content ∈ lookup "text" entries, ¬ IsShown stack .blockText content
    else ∃ content ∈ lookup "name" entries, ¬ IsShown stack .blockText content

/-- Where reading a schema derails: in the first block that is none. -/
def DerailsSchema (document : Document) : Prop :=
  ∃ entries, IsNode "schema" entries document ∧
    ∃ blocks, .list blocks ∈ lookup "list" entries ∧
      FirstDerails (IsDeclaration stack (IsShown stack)) (DerailsDeclaration stack) blocks

end

end PrismaEsdl.Prisma.Reading
