import PrismaEsdl.Prisma.Reading

/-!
Where faults are met.

Whatever a reading reports, however deep in a document, names the kind of node that it was met in,
which is one of a few (`IsNodeKind`). Two readings in a row name a node if both do
(`NamesNode.bind`), and so does the reading of several documents (`NamesNode.mapM`); so there is one
line for each function that reads, and `namesNode_ofDocument` for the whole.
-/

namespace PrismaEsdl.Prisma.Reading

/-- The kinds of nodes in which faults are met. -/
inductive IsNodeKind : Text → Prop where
  | schema : IsNodeKind "schema"
  | block : IsNodeKind "block"
  | enum : IsNodeKind "enum"
  | enumerator : IsNodeKind "enumerator"
  | model : IsNodeKind "model"
  | property : IsNodeKind "property"
  | field : IsNodeKind "field"
  | attribute : IsNodeKind "attribute"
  | attributeArgument : IsNodeKind "attributeArgument"
  | value : IsNodeKind "value"
  | function : IsNodeKind "function"
  | keyValue : IsNodeKind "keyValue"

theorem IsNodeKind.ne_nil {kind : Text} (known : IsNodeKind kind) : kind ≠ [] := by
  cases known <;> exact List.cons_ne_nil _ _

/-- If a reading reports a fault, it was met in a node of some kind. -/
def NamesNode {α : Type} (outcome : Result α) : Prop :=
  ∀ fault, outcome = .error (.malformed fault) → IsNodeKind fault.node

namespace NamesNode

variable {α β : Type}

theorem ok (value : α) : NamesNode (.ok value) := nofun

theorem fault {m : Malformation} (known : IsNodeKind m.node) :
    NamesNode (fault m : Result α) := by
  rintro _ ⟨⟩
  exact known

/-- What goes beyond the limits is no fault of a document. -/
theorem limited (outcome : Except Excess α) : NamesNode (limited outcome) := by
  cases outcome with
  | ok value => exact ok value
  | error excess => exact nofun

theorem bind {outcome : Result α} {next : α → Result β} (first : NamesNode outcome)
    (later : ∀ value, NamesNode (next value)) : NamesNode (outcome >>= next) := by
  intro fault reported
  cases outcome with
  | error reason =>
      cases reported
      exact first fault rfl
  | ok value => exact later value fault reported

/-- A reading the value of which is made into another one. -/
theorem map {outcome : Result α} (named : NamesNode outcome) (f : α → β) :
    NamesNode (outcome >>= fun value => .ok (f value)) :=
  named.bind fun value => ok (f value)

theorem mapM {γ : Type} {read : γ → Result α} (each : ∀ item, NamesNode (read item)) :
    ∀ items : List γ, NamesNode (items.mapM read)
  | [] => ok []
  | item :: rest => by
      rw [List.mapM_cons]
      exact (each item).bind fun value => (mapM each rest).map (value :: ·)

theorem faultIn {calls room : Nat} {m : Malformation} (known : IsNodeKind m.node) :
    NamesNode (faultIn calls room m : Result α) :=
  (limited _).bind fun _ => fault known

end NamesNode

/-! ### Values -/

theorem namesNode_requiredText {node : Text} (known : IsNodeKind node) (key : Text)
    (entries : List (Document × Document)) : NamesNode (requiredText node key entries) := by
  unfold requiredText
  split
  · exact .ok _
  · exact .fault known

theorem namesNode_innerText {node : Text} (known : IsNodeKind node) (room : Nat) (key : Text)
    (entries : List (Document × Document)) : NamesNode (innerText room node key entries) := by
  unfold innerText
  split
  · exact .ok _
  · exact .faultIn known

theorem namesNode_elements (document : Document) : NamesNode (elements document) := by
  unfold elements
  repeat' split
  all_goals exact nofun

theorem namesNode_elementsUnder (key : Text) (entries : List (Document × Document)) :
    NamesNode (elementsUnder key entries) := by
  unfold elementsUnder
  split
  · exact namesNode_elements _
  · exact .ok _

theorem namesNode_unsupported (room : Nat) (document : Document) :
    NamesNode (unsupported room document) :=
  (NamesNode.limited _).bind fun _ => .faultIn .value

theorem namesNode_simpleValue (room : Nat) (document : Document) :
    NamesNode (simpleValue room document) := by
  cases document with
  | null | bool | int | float | text => exact .ok _
  | _ => exact namesNode_unsupported room _

/-- What is read of the parts of a value, if there is room for them. -/
theorem namesNode_parts {α : Type} {parts : Result α} (named : NamesNode parts) (room : Nat)
    (make : α → Value) :
    NamesNode (limited (Stack.enter 3 room) >>= fun _ => parts >>= fun made => .ok (make made)) :=
  (NamesNode.limited _).bind fun _ => named.map make

theorem namesNode_objectValue (room : Nat) (whole : Document) (entries : List (Document × Document))
    {params arguments : Result (List Value)} {content : Result Value}
    (paramsNamed : NamesNode params) (argumentsNamed : NamesNode arguments)
    (contentNamed : NamesNode content) :
    NamesNode (objectValue room whole entries params arguments content) := by
  unfold objectValue
  split
  · split
    · exact (namesNode_innerText .function room "name" entries).bind fun name =>
        namesNode_parts paramsNamed room (Value.call name)
    split
    · exact (namesNode_innerText .keyValue room "key" entries).bind fun key =>
        namesNode_parts contentNamed room (Value.keyed key)
    split
    · exact namesNode_parts argumentsNamed room Value.list
    · exact namesNode_unsupported room whole
  · exact namesNode_unsupported room whole

theorem namesNode_keyValues (room : Nat) (around : Surroundings) (label : Nat) :
    NamesNode (keyValues room around label) := by
  unfold keyValues
  split
  · exact .mapM (fun entry : Document × Document => namesNode_simpleValue room entry.1) _
  · exact nofun

mutual

theorem namesNode_value (room : Nat) (around : Surroundings) :
    ∀ document : Document, NamesNode (value room around document)
  | .list items => namesNode_parts (namesNode_values _ around items) room Value.list
  | .object entries =>
      namesNode_objectValue room _ entries (namesNode_valuesUnder _ _ "params" entries)
        (namesNode_valuesUnder _ _ "args" entries) (namesNode_valueUnder _ _ "value" entries)
  | .labelled _ collection => by
      cases collection with
      | list items => exact namesNode_parts (namesNode_values _ _ items) room Value.list
      | object entries =>
          exact namesNode_objectValue room _ entries (namesNode_valuesUnder _ _ "params" entries)
            (namesNode_valuesUnder _ _ "args" entries) (namesNode_valueUnder _ _ "value" entries)
      | _ => exact namesNode_simpleValue room _
  | .within _ _ => nofun
  | .null | .bool _ | .int _ | .float _ | .text _ | .bytes _ | .date _ | .moment _ | .tuple _
  | .set _ => namesNode_simpleValue room _

theorem namesNode_values (room : Nat) (around : Surroundings) :
    ∀ documents : List Document, NamesNode (values room around documents)
  | [] => .ok []
  | item :: rest =>
      (namesNode_value room around item).bind fun value =>
        (namesNode_values room around rest).map (value :: ·)

theorem namesNode_valueUnder (room : Nat) (around : Surroundings) (key : Text) :
    ∀ entries : List (Document × Document), NamesNode (valueUnder room around key entries)
  | [] => .ok _
  | (name, content) :: rest => by
      have later := namesNode_valueUnder room around key rest
      cases name with
      | text t =>
          rw [valueUnder]
          split
          · exact namesNode_value room around content
          · exact later
      | _ => exact later

theorem namesNode_valuesUnder (room : Nat) (around : Surroundings) (key : Text) :
    ∀ entries : List (Document × Document), NamesNode (valuesUnder room around key entries)
  | [] => .ok _
  | (name, content) :: rest => by
      have later := namesNode_valuesUnder room around key rest
      cases name with
      | text t =>
          rw [valuesUnder]
          split
          · exact namesNode_elementValues room around content
          · exact later
      | _ => exact later

theorem namesNode_elementValues (room : Nat) (around : Surroundings) :
    ∀ document : Document, NamesNode (elementValues room around document)
  | .list items | .tuple items | .set items => namesNode_values room around items
  | .labelled _ collection => by
      cases collection with
      | list items => exact namesNode_values room _ items
      | _ => exact (namesNode_elements _).bind (.mapM (namesNode_simpleValue room))
  | .within label _ => namesNode_keyValues room around label
  | .null | .bool _ | .int _ | .float _ | .text _ | .bytes _ | .date _ | .moment _ | .object _ =>
      (namesNode_elements _).bind (.mapM (namesNode_simpleValue room))

end

/-! ### Nodes -/

theorem namesNode_node {expected : Text} (known : IsNodeKind expected) (document : Document) :
    NamesNode (node expected document) := by
  unfold node
  repeat' split
  · exact .ok _
  · exact .fault known
  · exact .fault known

theorem namesNode_shownUnder (room : Nat) (key : Text) (entries : List (Document × Document)) :
    NamesNode (shownUnder room key entries) := by
  unfold shownUnder
  split
  · exact .limited _
  · exact .ok _

theorem namesNode_argument (room : Nat) (document : Document) :
    NamesNode (argument room document) := by
  unfold argument
  split
  · exact namesNode_value room [] _
  · exact .fault .attributeArgument

/-- Something is made of what stands in a list under a key. -/
theorem namesNode_each {α β : Type} {read : Document → Result α}
    (each : ∀ document, NamesNode (read document)) (key : Text)
    (entries : List (Document × Document)) (make : List α → β) :
    NamesNode (elementsUnder key entries >>= fun items =>
      items.mapM read >>= fun parts => .ok (make parts)) :=
  (namesNode_elementsUnder key entries).bind fun items =>
    (NamesNode.mapM each items).map make

theorem namesNode_attributeOf (room : Nat) (entries : List (Document × Document)) :
    NamesNode (attributeOf room entries) := by
  unfold attributeOf
  apply (namesNode_requiredText .attribute "name" entries).bind
  intro name
  exact namesNode_each (namesNode_argument room) "args" entries (AttributeDeclaration.mk name)

theorem namesNode_fieldAttribute (room : Nat) (document : Document) :
    NamesNode (fieldAttribute room document) := by
  unfold fieldAttribute
  split
  · exact namesNode_attributeOf room _
  · exact nofun

theorem namesNode_fieldType (room : Nat) (name : Text) (entries : List (Document × Document)) :
    NamesNode (fieldType room name entries) := by
  have noType : NamesNode (fault (.noFieldType name) : Result Value) :=
    .fault .field
  have otherType : NamesNode (fault (.unsupportedFieldType name) : Result Value) :=
    .fault .field
  unfold fieldType
  split
  · exact .ok _
  · split
    · apply (namesNode_value room [] _).bind
      intro value
      cases value with
      | call => exact .ok _
      | _ => exact otherType
    · exact noType
  · exact noType

section

variable (stack : Stack)

theorem namesNode_field (entries : List (Document × Document)) :
    NamesNode (field stack entries) := by
  unfold field
  apply (namesNode_requiredText .field "name" entries).bind
  intro name
  apply (namesNode_fieldType _ name entries).bind
  intro type
  exact namesNode_each (namesNode_fieldAttribute _) "attributes" entries _

theorem namesNode_property (document : Document) : NamesNode (property stack document) := by
  unfold property
  apply (namesNode_node .property document).bind
  rintro ⟨kind, entries⟩
  dsimp only
  split
  · exact (namesNode_field stack entries).map Property.field
  split
  · exact (namesNode_attributeOf _ entries).map Property.blockAttribute
  · exact (namesNode_shownUnder _ "text" entries).map Property.comment

theorem namesNode_enumItem (document : Document) : NamesNode (enumItem stack document) := by
  unfold enumItem
  apply (namesNode_node .enumerator document).bind
  rintro ⟨kind, entries⟩
  dsimp only
  split
  · exact (namesNode_requiredText .enumerator "name" entries).map EnumItem.value
  · exact (namesNode_shownUnder _ "text" entries).map EnumItem.comment

theorem namesNode_declaration (document : Document) :
    NamesNode (declaration stack document) := by
  unfold declaration
  apply (namesNode_node .block document).bind
  rintro ⟨kind, entries⟩
  dsimp only
  split
  · apply (namesNode_requiredText .enum "name" entries).bind
    intro name
    exact namesNode_each (namesNode_enumItem stack) "enumerators" entries (Declaration.enum name)
  split
  · apply (namesNode_requiredText .model "name" entries).bind
    intro name
    exact namesNode_each (namesNode_property stack) "properties" entries (Declaration.model name)
  split
  · exact (namesNode_shownUnder _ "text" entries).map Declaration.comment
  · exact (namesNode_shownUnder _ "name" entries).map (Declaration.other kind)

theorem namesNode_schemaEntries (document : Document) : NamesNode (schemaEntries document) := by
  have noSchema : NamesNode (fault .notASchema : Result (List (Document × Document))) :=
    .fault .schema
  unfold schemaEntries
  split
  · split
    · split
      · exact .ok _
      · exact noSchema
    · exact noSchema
  · exact noSchema

/-- A fault of a document is met in a node of some kind, at whatever depth. -/
theorem namesNode_ofDocument (document : Document) :
    NamesNode (Schema.ofDocument stack document) := by
  unfold Schema.ofDocument
  apply (namesNode_schemaEntries document).bind
  intro entries
  split
  · exact (NamesNode.mapM (namesNode_declaration stack) _).map Schema.mk
  · exact .fault .schema

end

end PrismaEsdl.Prisma.Reading
