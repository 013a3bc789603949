import Mathlib.Data.List.Forall2
import PrismaEsdl.Proofs.Prisma.Reading

/-!
Documents of syntax trees.

Every syntax tree has a document: its declarations are the blocks of a schema, in their order, and
the arguments of its attributes are objects of the three kinds that are read as arguments. Reading
gives a well-formed tree for every document that it accepts, with one declaration for each block.
It gives back a well-formed tree from the document of it as long as there is room for the values
that nest in it. So the trees that are read are well-formed, and reading loses nothing of them
(`reading_makes_exactly_wellFormed`).
-/

namespace PrismaEsdl.Prisma

open Document (lookup)
open Outcome (bind_eq_ok_iff mapM_eq_ok_iff)

/-! ### The document of a tree -/

mutual

/-- The document of an argument. -/
def Value.toDocument : Value → Document
  | null => .null
  | text t => .text t
  | bool b => .bool b
  | int i => .int i
  | float x => .float x
  | call name arguments => .ofFields [("type", .text "function"), ("name", .text name),
      ("params", .list (toDocuments arguments))]
  | keyed key value => .ofFields [("type", .text "keyValue"), ("key", .text key),
      ("value", value.toDocument)]
  | list items => .ofFields [("type", .text "array"), ("args", .list (toDocuments items))]

def Value.toDocuments : List Value → List Document
  | [] => []
  | item :: rest => item.toDocument :: toDocuments rest

end

/-- The object with an argument for its value. -/
def Value.toArgument (value : Value) : Document := .ofFields [("value", value.toDocument)]

def AttributeDeclaration.toDocument (declared : AttributeDeclaration) : Document :=
  .ofFields [("type", .text "attribute"), ("name", .text declared.name),
    ("args", .list (declared.arguments.map Value.toArgument))]

def FieldDeclaration.toDocument (field : FieldDeclaration) : Document :=
  .ofFields [("type", .text "field"), ("name", .text field.name),
    ("fieldType", field.type.toDocument), ("array", .bool field.array),
    ("optional", .bool field.optional),
    ("attributes", .list (field.attributes.map AttributeDeclaration.toDocument))]

/-- The document of a comment. -/
def commentDocument (t : Text) : Document :=
  .ofFields [("type", .text "comment"), ("text", .text t)]

def Property.toDocument : Property → Document
  | field declaration => declaration.toDocument
  | blockAttribute declaration => declaration.toDocument
  | comment t => commentDocument t

def EnumItem.toDocument : EnumItem → Document
  | value name => .ofFields [("type", .text "enumerator"), ("name", .text name)]
  | comment t => commentDocument t

def Declaration.toDocument : Declaration → Document
  | enum name items => .ofFields [("type", .text "enum"), ("name", .text name),
      ("enumerators", .list (items.map EnumItem.toDocument))]
  | model name properties => .ofFields [("type", .text "model"), ("name", .text name),
      ("properties", .list (properties.map Property.toDocument))]
  | comment t => commentDocument t
  | other kind name => .ofFields [("type", .text kind), ("name", .text name)]

def Schema.toDocument (schema : Schema) : Document :=
  .ofFields [("type", .text "schema"),
    ("list", .list (schema.declarations.map Declaration.toDocument))]

/-! ### The room that reading takes -/

mutual

/-- The nested calls that reading a value from its document takes. -/
def Value.readingCalls : Value → Nat
  | call _ arguments => 2 + max 1 (mostReadingCalls arguments)
  | keyed _ value => 1 + max 2 value.readingCalls
  | list items => 2 + max 1 (mostReadingCalls items)
  | _ => 0

def Value.mostReadingCalls : List Value → Nat
  | [] => 0
  | item :: rest => max item.readingCalls (mostReadingCalls rest)

end

/-- Whether there is room for reading the arguments of an attribute. -/
def AttributeDeclaration.FitsReading (room : Nat) (declared : AttributeDeclaration) : Prop :=
  ∀ argument ∈ declared.arguments, argument.readingCalls ≤ room

section

variable (stack : Stack)

def FieldDeclaration.FitsReading (field : FieldDeclaration) : Prop :=
  field.type.readingCalls ≤ stack.room .fieldType ∧
    ∀ declared ∈ field.attributes, declared.FitsReading (stack.room .fieldArgument)

def Property.FitsReading : Property → Prop
  | field declaration => declaration.FitsReading stack
  | blockAttribute declaration => declaration.FitsReading (stack.room .blockArgument)
  | comment _ => True

def Declaration.FitsReading : Declaration → Prop
  | model _ properties => ∀ property ∈ properties, property.FitsReading stack
  | enum _ _ | comment _ | other _ _ => True

/-- Whether there is room for reading the values of a schema from its document. -/
def Schema.FitsReading (schema : Schema) : Prop :=
  ∀ declaration ∈ schema.declarations, declaration.FitsReading stack

end

namespace Reading

theorem toDocuments_eq_map (arguments : List Value) :
    Value.toDocuments arguments = arguments.map Value.toDocument := by
  induction arguments with
  | nil => rfl
  | cons argument rest ih => rw [Value.toDocuments, ih, List.map_cons]

/-! ### Reading a document that was written -/

/-- A reading that gives a value back if there is room for it, and else fails for want of room. -/
structure GivesBack {α : Type} (outcome : Result α) (value : α) (fits : Prop) : Prop where
  ok : fits → outcome = .ok value
  deep : ¬ fits → outcome = .error (.excessive .depth)

namespace GivesBack

variable {α β : Type} {outcome : Result α} {value : α} {fits fits' : Prop}

theorem of_ok (value : α) : GivesBack (.ok value) value True :=
  ⟨fun _ => rfl, fun no => absurd trivial no⟩

theorem enter (calls room : Nat) :
    GivesBack (limited (Stack.enter calls room)) () (calls ≤ room) where
  ok fits := by rw [Stack.enter_of_le fits]; rfl
  deep exceeds := by rw [Stack.enter_of_lt (Nat.lt_of_not_le exceeds)]; rfl

theorem reword (back : GivesBack outcome value fits) (same : fits ↔ fits') :
    GivesBack outcome value fits' := propext same ▸ back

/-- Two readings one after the other need room for both. -/
theorem bind {next : α → Result β} {last : β} (back : GivesBack outcome value fits)
    (later : GivesBack (next value) last fits') :
    GivesBack (outcome >>= next) last (fits ∧ fits') where
  ok both := by
    rw [back.ok both.1]
    exact later.ok both.2
  deep exceeds := by
    by_cases here : fits
    · rw [back.ok here]
      exact later.deep fun there => exceeds ⟨here, there⟩
    · rw [back.deep here]
      rfl

theorem map {f : α → β} (back : GivesBack outcome value fits) :
    GivesBack (outcome >>= fun value => .ok (f value)) (f value) fits :=
  (back.bind (of_ok (f value))).reword (iff_of_eq (and_true _))

/-- Several documents that were written need room for each. -/
theorem mapM {read : Document → Result α} {write : α → Document} {fitsAt : α → Prop}
    {values : List α}
    (each : ∀ value ∈ values, GivesBack (read (write value)) value (fitsAt value)) :
    GivesBack ((values.map write).mapM read) values (∀ value ∈ values, fitsAt value) := by
  induction values with
  | nil => exact (of_ok []).reword (by simp)
  | cons value rest ih =>
      rw [List.map_cons, List.mapM_cons]
      have later := ih fun other member => each other (.tail _ member)
      exact ((each value (.head _)).bind later.map).reword List.forall_mem_cons.symm

end GivesBack

variable {number : Binary64 → Prop} {stack : Stack} {room : Nat}

theorem mostReadingCalls_le_iff {arguments : List Value} :
    Value.mostReadingCalls arguments ≤ room ↔
      ∀ argument ∈ arguments, argument.readingCalls ≤ room := by
  induction arguments with
  | nil => simp [Value.mostReadingCalls]
  | cons argument rest ih => rw [Value.mostReadingCalls, Nat.max_le, ih, List.forall_mem_cons]

/-- The arguments of a call or the items of a list are given back after its calls. -/
theorem givesBack_parts {arguments : List Value} {make : List Value → Value}
    (each : ∀ argument ∈ arguments, GivesBack (value (room - 2) [] argument.toDocument) argument
      (argument.readingCalls ≤ room - 2)) :
    GivesBack (do
        limited (Stack.enter 3 room)
        return make (← values (room - 2) [] (Value.toDocuments arguments)))
      (make arguments) (2 + max 1 (Value.mostReadingCalls arguments) ≤ room) := by
  rw [values_eq_mapM, toDocuments_eq_map]
  refine ((GivesBack.enter 3 room).bind (GivesBack.mapM each).map).reword ?_
  rw [← mostReadingCalls_le_iff]
  omega

/-- A value is given back exactly if there is room for it. -/
theorem givesBack_value {argument : Value} (wellFormed : argument.IsWellFormed number) :
    ∀ room, GivesBack (value room [] argument.toDocument) argument
      (argument.readingCalls ≤ room) := by
  have simple (room : Nat) {made : Value} (none : made.readingCalls = 0) :
      GivesBack (.ok made) made (made.readingCalls ≤ room) :=
    (GivesBack.of_ok made).reword (iff_of_true trivial (none ▸ Nat.zero_le room))
  induction wellFormed with
  | null | text _ | int _ | float _ => exact fun room => simple room rfl
  | @call name arguments named parts ih =>
      obtain ⟨p, rest, rfl⟩ := List.exists_cons_of_ne_nil named
      exact fun room => givesBack_parts fun argument member => ih argument member (room - 2)
  | @keyed key content named part ih =>
      obtain ⟨p, rest, rfl⟩ := List.exists_cons_of_ne_nil named
      intro room
      have whole : GivesBack (value room [] (Value.keyed (p :: rest) content).toDocument)
          (.keyed (p :: rest) content) (3 ≤ room ∧ content.readingCalls ≤ room - 1) :=
        (GivesBack.enter 3 room).bind (ih (room - 1)).map
      refine whole.reword ?_
      rw [Value.readingCalls]
      omega
  | @list items parts ih =>
      exact fun room => givesBack_parts fun item member => ih item member (room - 2)

/-- An attribute is given back from its name and its arguments, whatever else its entries hold. -/
theorem givesBack_attributeOf {declared : AttributeDeclaration}
    {entries : List (Document × Document)} (wellFormed : declared.IsWellFormed number)
    (named : lookup "name" entries = some (.text declared.name))
    (given : lookup "args" entries = some (.list (declared.arguments.map Value.toArgument))) :
    GivesBack (attributeOf room entries) declared (declared.FitsReading room) := by
  obtain ⟨name, arguments⟩ := declared
  obtain ⟨p, rest, rfl⟩ := List.exists_cons_of_ne_nil wellFormed.named
  simp only [attributeOf, requiredText, textUnder?, elementsUnder, named, given]
  exact GivesBack.map (.mapM fun argument member =>
    givesBack_value (wellFormed.arguments argument member) room)

/-- The type of a field is given back from what stands under its key. -/
theorem givesBack_fieldType {type : Value} {entries : List (Document × Document)} (field : Text)
    (typed : type.IsType number) (given : lookup "fieldType" entries = some type.toDocument) :
    GivesBack (fieldType room field entries) type (type.readingCalls ≤ room) := by
  unfold fieldType
  rw [given]
  cases typed with
  | @named name nonempty =>
      obtain ⟨p, rest, rfl⟩ := List.exists_cons_of_ne_nil nonempty
      exact (GivesBack.of_ok _).reword (iff_of_true trivial (Nat.zero_le room))
  | @call name arguments wellFormed =>
      change GivesBack (value room [] (Value.call name arguments).toDocument >>= _) _ _
      refine GivesBack.reword (GivesBack.bind (givesBack_value wellFormed room) ?_)
        (iff_of_eq (and_true _))
      exact .of_ok _

/-- A field is given back from what stands under its keys, whatever else its entries hold. -/
theorem givesBack_field {declared : FieldDeclaration} {entries : List (Document × Document)}
    (wellFormed : declared.IsWellFormed number)
    (named : lookup "name" entries = some (.text declared.name))
    (typed : lookup "fieldType" entries = some declared.type.toDocument)
    (array : flagUnder "array" entries = declared.array)
    (optional : flagUnder "optional" entries = declared.optional)
    (given : lookup "attributes" entries
      = some (.list (declared.attributes.map AttributeDeclaration.toDocument))) :
    GivesBack (field stack entries) declared (declared.FitsReading stack) := by
  obtain ⟨name, type, isArray, isOptional, attributes⟩ := declared
  obtain ⟨p, rest, rfl⟩ := List.exists_cons_of_ne_nil wellFormed.named
  simp only [field, requiredText, textUnder?, elementsUnder, named, given, array, optional]
  have row : GivesBack
      ((attributes.map AttributeDeclaration.toDocument).mapM
        (fieldAttribute (stack.room .fieldArgument)))
      attributes (∀ declared ∈ attributes, declared.FitsReading (stack.room .fieldArgument)) :=
    .mapM fun declared member =>
      givesBack_attributeOf (wellFormed.attributes declared member) rfl rfl
  exact (givesBack_fieldType (p :: rest) wellFormed.typed typed).bind row.map

theorem givesBack_property {made : Property} (wellFormed : made.IsWellFormed number) :
    GivesBack (property stack made.toDocument) made (made.FitsReading stack) := by
  cases made with
  | field declaration => exact (givesBack_field wellFormed rfl rfl rfl rfl rfl).map
  | blockAttribute declaration => exact (givesBack_attributeOf wellFormed rfl rfl).map
  | comment t => exact .of_ok _

theorem enumItem_toDocument {item : EnumItem} (wellFormed : item.IsWellFormed) :
    enumItem stack item.toDocument = .ok item := by
  cases item with
  | value name =>
      obtain ⟨p, rest, rfl⟩ := List.exists_cons_of_ne_nil wellFormed
      rfl
  | comment t => rfl

theorem givesBack_declaration {made : Declaration} (wellFormed : made.IsWellFormed number) :
    GivesBack (declaration stack made.toDocument) made (made.FitsReading stack) := by
  cases made with
  | enum name items =>
      obtain ⟨named, each⟩ := wellFormed
      obtain ⟨p, rest, rfl⟩ := List.exists_cons_of_ne_nil named
      have row : GivesBack ((items.map EnumItem.toDocument).mapM (enumItem stack)) items
          (∀ item ∈ items, True) :=
        .mapM fun item member => enumItem_toDocument (each item member) ▸ .of_ok item
      exact row.map.reword (iff_of_true (fun _ _ => trivial) trivial)
  | model name properties =>
      obtain ⟨named, each⟩ := wellFormed
      obtain ⟨p, rest, rfl⟩ := List.exists_cons_of_ne_nil named
      exact GivesBack.map (.mapM fun made member => givesBack_property (each made member))
  | comment t => exact .of_ok _
  | other kind name =>
      simp only [Declaration.IsWellFormed, Declaration.kinds, List.mem_cons, List.not_mem_nil,
        or_false, not_or] at wellFormed
      obtain ⟨noEnum, noModel, noComment⟩ := wellFormed
      have read : declaration stack (Declaration.other kind name).toDocument
          = .ok (.other kind name) := by
        calc declaration stack _
            = if kind = "enum" then _ else if kind = "model" then _
                else if kind = "comment" then _ else .ok (.other kind name) := rfl
          _ = .ok (.other kind name) := by rw [if_neg noEnum, if_neg noModel, if_neg noComment]
      exact read ▸ .of_ok _

/-- A schema is given back exactly if there is room for all values in it. -/
theorem givesBack_ofDocument {schema : Schema} (wellFormed : schema.IsWellFormed number) :
    GivesBack (Schema.ofDocument stack schema.toDocument) schema (schema.FitsReading stack) :=
  GivesBack.map (.mapM fun made member => givesBack_declaration (wellFormed made member))

/-! ### Documents of trees are JSON values -/

theorem isJson_toDocument_value {argument : Value} (wellFormed : argument.IsWellFormed number) :
    argument.toDocument.IsJson number := by
  induction wellFormed with
  | null => exact .null
  | text t => exact .text t
  | int i => exact .int i
  | float fits => exact .float fits
  | call named parts ih => simpa [Value.toDocument, toDocuments_eq_map] using ih
  | keyed named part ih => simpa [Value.toDocument] using ih
  | list parts ih => simpa [Value.toDocument, toDocuments_eq_map] using ih

theorem isJson_toDocument_type {type : Value} (typed : type.IsType number) :
    type.toDocument.IsJson number := by
  cases typed with
  | named _ => exact .text _
  | call wellFormed => exact isJson_toDocument_value wellFormed

theorem isJson_toDocument_attribute {declared : AttributeDeclaration}
    (wellFormed : declared.IsWellFormed number) : declared.toDocument.IsJson number := by
  have arguments : ∀ argument ∈ declared.arguments, argument.toDocument.IsJson number :=
    fun argument member => isJson_toDocument_value (wellFormed.arguments argument member)
  simpa [AttributeDeclaration.toDocument, Value.toArgument] using arguments

theorem isJson_toDocument_field {field : FieldDeclaration}
    (wellFormed : field.IsWellFormed number) : field.toDocument.IsJson number := by
  have type := isJson_toDocument_type wellFormed.typed
  have attributes : ∀ declared ∈ field.attributes, declared.toDocument.IsJson number :=
    fun declared member => isJson_toDocument_attribute (wellFormed.attributes declared member)
  simpa [FieldDeclaration.toDocument] using ⟨type, attributes⟩

theorem isJson_commentDocument (t : Text) : (commentDocument t).IsJson number := by
  simp [commentDocument]

theorem isJson_toDocument_property {made : Property} (wellFormed : made.IsWellFormed number) :
    made.toDocument.IsJson number := by
  cases made with
  | field declaration => exact isJson_toDocument_field wellFormed
  | blockAttribute declaration => exact isJson_toDocument_attribute wellFormed
  | comment t => exact isJson_commentDocument t

theorem isJson_toDocument_enumItem (item : EnumItem) : item.toDocument.IsJson number := by
  cases item with
  | value name => simp [EnumItem.toDocument]
  | comment t => exact isJson_commentDocument t

theorem isJson_toDocument_declaration {made : Declaration}
    (wellFormed : made.IsWellFormed number) : made.toDocument.IsJson number := by
  cases made with
  | enum name items => simp [Declaration.toDocument, isJson_toDocument_enumItem]
  | model name properties =>
      have parts : ∀ made ∈ properties, made.toDocument.IsJson number :=
        fun made member => isJson_toDocument_property (wellFormed.2 made member)
      simpa [Declaration.toDocument] using parts
  | comment t => exact isJson_commentDocument t
  | other kind name => simp [Declaration.toDocument]

theorem isJson_toDocument {schema : Schema} (wellFormed : schema.IsWellFormed number) :
    schema.toDocument.IsJson number := by
  have blocks : ∀ made ∈ schema.declarations, made.toDocument.IsJson number :=
    fun made member => isJson_toDocument_declaration (wellFormed made member)
  simpa [Schema.toDocument] using blocks

/-! ### What is read -/

/-- A schema that is read has one declaration for each of its blocks, in their order. -/
theorem exists_blocks {document : Document} {schema : Schema} (json : document.IsJson number)
    (read : Schema.ofDocument stack document = .ok schema) :
    ∃ entries blocks, document = .object entries ∧ .list blocks ∈ lookup "list" entries ∧
      List.Forall₂ (fun block made => declaration stack block = .ok made) blocks
        schema.declarations := by
  obtain ⟨entries, found, blocksRead⟩ := bind_eq_ok_iff.mp read
  obtain ⟨rfl, _⟩ := (contract_schemaEntries json).makes entries found
  cases listed : (lookup "list" entries).bind Document.items? with
  | none =>
      rw [listed] at blocksRead
      cases blocksRead
  | some blocks =>
      obtain ⟨content, given, isList⟩ := Option.bind_eq_some_iff.mp listed
      obtain rfl := (items?_eq_some_iff (json.of_lookup given)).mp isList
      rw [listed] at blocksRead
      obtain ⟨declarations, each, made⟩ := bind_eq_ok_iff.mp blocksRead
      cases made
      exact ⟨entries, blocks, rfl, given, mapM_eq_ok_iff.mp each⟩

end Reading

open Reading

variable {stack : Stack}

/-- Reading makes a well-formed schema of every JSON document that it accepts, with one declaration
for each block, in their order. It gives back a well-formed schema from its document exactly if
there is room for the values in it; else it fails for want of room. -/
theorem reading_makes_exactly_wellFormed :
    (∀ {document : Document} {schema : Schema}, document.IsJson Binary64.IsFinite →
      Schema.ofDocument stack document = .ok schema →
        schema.IsWellFormed Binary64.IsFinite ∧
          ∃ entries blocks, document = .object entries ∧ .list blocks ∈ lookup "list" entries ∧
            schema.declarations.length = blocks.length ∧
            List.Forall₂ (fun block made => declaration stack block = .ok made) blocks
              schema.declarations) ∧
    (∀ {schema : Schema}, schema.IsWellFormed Binary64.IsFinite →
      schema.toDocument.IsJson Binary64.IsFinite ∧
        (schema.FitsReading stack → Schema.ofDocument stack schema.toDocument = .ok schema) ∧
        (¬ schema.FitsReading stack →
          Schema.ofDocument stack schema.toDocument = .error (.excessive .depth))) := by
  refine ⟨fun json read => ⟨(contract_ofDocument json).makes _ read, ?_⟩, fun wellFormed =>
    ⟨isJson_toDocument wellFormed, (givesBack_ofDocument wellFormed).ok,
      (givesBack_ofDocument wellFormed).deep⟩⟩
  obtain ⟨entries, blocks, isObject, listed, each⟩ := exists_blocks json read
  exact ⟨entries, blocks, isObject, listed, each.length_eq.symm, each⟩

/-- A field with a call for its type and with lists and keys in the arguments of its attribute. -/
def areaField : FieldDeclaration :=
  ⟨"area", .call "Unsupported" [.text "circle"], false, true,
    [⟨"relation", [.keyed "fields" (.list [.null, .float (.finite false 3 (-1))])]⟩]⟩

def geometry : Schema :=
  ⟨[.comment "// shapes", .model "Circle" [.field areaField], .other "generator" "client"]⟩

theorem isWellFormed_areaField : areaField.IsWellFormed Binary64.IsFinite where
  named := by decide
  typed := .call (.call (by decide) (by simpa using Value.IsWellFormed.text _))
  attributes := by
    have fields : Value.IsWellFormed Binary64.IsFinite
        (.list [.null, .float (.finite false 3 (-1))]) :=
      .list (by simpa using ⟨Value.IsWellFormed.null, Value.IsWellFormed.float trivial⟩)
    intro declared member
    obtain rfl := List.mem_singleton.mp member
    exact ⟨by decide, by simpa using Value.IsWellFormed.keyed (by decide) fields⟩

theorem isWellFormed_geometry : geometry.IsWellFormed Binary64.IsFinite := by
  intro made member
  rcases List.mem_cons.mp member with rfl | member
  · exact trivial
  · rcases List.mem_cons.mp member with rfl | member
    · exact ⟨by decide, by simpa [Property.IsWellFormed] using isWellFormed_areaField⟩
    · obtain rfl := List.mem_singleton.mp member
      exact (by decide : ("generator" : Text) ∉ Declaration.kinds)

theorem geometry_is_read_back :
    geometry.IsWellFormed Binary64.IsFinite ∧ geometry.FitsReading .usual ∧
      geometry.toDocument.IsJson Binary64.IsFinite ∧
      Schema.ofDocument .usual geometry.toDocument = .ok geometry ∧
      ∃ entries blocks, geometry.toDocument = .object entries ∧
        .list blocks ∈ lookup "list" entries ∧ geometry.declarations.length = blocks.length := by
  have fits : geometry.FitsReading .usual := by
    intro made member
    rcases List.mem_cons.mp member with rfl | member
    · exact trivial
    rcases List.mem_cons.mp member with rfl | member
    · intro property member
      obtain rfl := List.mem_singleton.mp member
      refine ⟨by decide, fun declared member argument given => ?_⟩
      obtain rfl := List.mem_singleton.mp member
      obtain rfl := List.mem_singleton.mp given
      decide
    · obtain rfl := List.mem_singleton.mp member
      exact trivial
  obtain ⟨json, read, _⟩ := reading_makes_exactly_wellFormed.2 isWellFormed_geometry
  obtain ⟨wellFormed, entries, blocks, isObject, listed, count, _⟩ :=
    reading_makes_exactly_wellFormed.1 json (read fits)
  exact ⟨wellFormed, fits, json, read fits, entries, blocks, isObject, listed, count⟩

/-- A row of lists, each of them around the one before. -/
def nestedLists : Nat → Value
  | 0 => .null
  | depth + 1 => .list [nestedLists depth]

theorem isWellFormed_nestedLists (depth : Nat) :
    (nestedLists depth).IsWellFormed Binary64.IsFinite := by
  induction depth with
  | zero => exact .null
  | succ depth ih => exact .list (by simpa using ih)

/-- Lists within lists take two calls each. -/
theorem le_readingCalls_nestedLists (depth : Nat) :
    2 * depth ≤ (nestedLists depth).readingCalls := by
  induction depth with
  | zero => exact Nat.le_refl 0
  | succ depth ih =>
      rw [nestedLists, Value.readingCalls, Value.mostReadingCalls]
      omega

/-- A model with an attribute that says nothing but lists within lists. -/
def listed (depth : Nat) : Schema :=
  ⟨[.model "Post" [.blockAttribute ⟨"map", [nestedLists depth]⟩]]⟩

/-- Not every well-formed schema is given back. -/
theorem not_every_schema_is_read_back :
    ¬ ∀ schema : Schema, schema.IsWellFormed Binary64.IsFinite →
      Schema.ofDocument .usual schema.toDocument = .ok schema := by
  intro readBack
  have wellFormed : (listed 600).IsWellFormed Binary64.IsFinite := by
    intro made member
    obtain rfl := List.mem_singleton.mp member
    refine ⟨by decide, fun property member => ?_⟩
    obtain rfl := List.mem_singleton.mp member
    refine ⟨by decide, fun argument given => ?_⟩
    obtain rfl := List.mem_singleton.mp given
    exact isWellFormed_nestedLists 600
  have exceeds : ¬ (listed 600).FitsReading .usual := by
    intro fits
    have room := fits _ (.head _) _ (.head _) _ (.head _)
    have room := Nat.le_trans (le_readingCalls_nestedLists 600) room
    exact absurd room (by decide)
  have failed := (givesBack_ofDocument wellFormed).deep exceeds
  rw [readBack _ wellFormed] at failed
  cases failed

end PrismaEsdl.Prisma
