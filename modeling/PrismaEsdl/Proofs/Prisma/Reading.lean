import PrismaEsdl.Failure
import PrismaEsdl.Proofs.Prisma.Grammar

/-!
When a document is read as a schema.

Every reader has a contract (`contract_ofDocument` is the one of the whole document): the documents
that it accepts, those in which it derails, and what holds of what it makes. So the JSON values
that are read are those of the grammar that do not nest too deeply and in which every node passed
over can be shown (`exists_schema_iff_isSchema`), and a JSON value that is not read is reported,
unless reading it derails (`settles_iff_not_derails`).
-/

namespace PrismaEsdl.Prisma.Reading

open Document (lookup)

variable {number : Binary64 → Prop} {document : Document} {entries : List (Document × Document)}
  {stack : Stack} {room : Nat}

/-! ### Nodes and rows -/

theorem entries?_eq_some_iff (json : document.IsJson number) :
    document.entries? = some entries ↔ document = .object entries := by
  cases json <;> simp [Document.entries?]

/-- A JSON value is an object or has no entries. -/
theorem object_or_entries?_eq_none (json : document.IsJson number) :
    (∃ entries, document = .object entries) ∨
      document.entries? = none ∧ ∀ entries, document ≠ .object entries := by
  cases json <;> simp [Document.entries?]

theorem items?_eq_some_iff (json : document.IsJson number) {items : List Document} :
    document.items? = some items ↔ document = .list items := by
  cases json <;> simp [Document.items?]

theorem IsNode.unique {kind kind' : Text} {entries' : List (Document × Document)}
    (isNode : IsNode kind entries document) (isNode' : IsNode kind' entries' document) :
    kind = kind' ∧ entries = entries' := by
  obtain ⟨rfl, typed⟩ := isNode
  obtain ⟨⟨⟩, typed'⟩ := isNode'
  exact ⟨typed.unique typed', rfl⟩

/-- What is read from a node with a kind, by its kind and entries. -/
theorem contract_node {α : Type} {next : Text × List (Document × Document) → Result α}
    {accepts derails : Text → List (Document × Document) → Prop} {made : α → Prop}
    (expected : Text) (json : document.IsJson number)
    (each : ∀ kind entries, IsNode kind entries document →
      Contract (next (kind, entries)) (accepts kind entries) (derails kind entries) made) :
    Contract (node expected document >>= next)
      (∃ kind entries, IsNode kind entries document ∧ accepts kind entries)
      (∃ kind entries, IsNode kind entries document ∧ derails kind entries) made := by
  by_cases isNode : ∃ kind entries, IsNode kind entries document
  · obtain ⟨kind, entries, isNode⟩ := isNode
    have read : node expected document = .ok (kind, entries) := by
      obtain ⟨rfl, typed⟩ := isNode
      unfold HasType at typed
      simp [node, Document.entries?, typed]
    have only : ∀ {holds : Text → List (Document × Document) → Prop}, holds kind entries ↔
        ∃ kind' entries', IsNode kind' entries' document ∧ holds kind' entries' := by
      intro holds
      refine ⟨fun given => ⟨kind, entries, isNode, given⟩, ?_⟩
      rintro ⟨kind', entries', isNode', given⟩
      obtain ⟨rfl, rfl⟩ := isNode.unique isNode'
      exact given
    rw [read]
    exact (each kind entries isNode).reword only only
  · have read : node expected document = fault (.untyped expected) := by
      unfold node
      split
      · rename_i entries found
        split
        · rename_i kind typed
          exact absurd ⟨kind, entries, (entries?_eq_some_iff json).mp found, typed⟩ isNode
        · rfl
      · rfl
    rw [read]
    refine .fault ?_ ?_
    · rintro ⟨kind, entries, found, _⟩
      exact isNode ⟨kind, entries, found⟩
    · rintro ⟨kind, entries, found, _⟩
      exact isNode ⟨kind, entries, found⟩

/-- What is read from a row of nodes under a key, which may be missing. A text is no such node, so
the row is a list. -/
theorem contract_elementsUnder {α β : Type} {read : Document → Result α} {make : List α → β}
    {accepts derails : Document → Prop} {made : α → Prop} {madeNext : β → Prop} (key : Text)
    (json : (Document.object entries).IsJson number) (textless : ∀ t, ¬ accepts (.text t))
    (each : ∀ {part : Document}, part.IsJson number →
      Contract (read part) (accepts part) (derails part) made)
    (holds : ∀ values, (∀ value ∈ values, made value) → madeNext (make values)) :
    Contract (elementsUnder key entries >>= fun parts =>
        parts.mapM read >>= fun values => .ok (make values))
      (∀ row ∈ lookup key entries, row.IsListOf accepts)
      (∃ row ∈ lookup key entries, RowDerails accepts derails row) madeNext := by
  have parts : Contract (elementsUnder key entries >>= fun parts => parts.mapM read)
      (∀ row ∈ lookup key entries, row.IsListOf accepts)
      (∃ row ∈ lookup key entries, RowDerails accepts derails row)
      (fun values => ∀ value ∈ values, made value) := by
    unfold elementsUnder
    refine .under (nofun : ∀ value ∈ [], _) (fun missing => by rw [missing]; rfl) ?_
    intro row found
    have rowJson := json.of_lookup found
    rw [found]
    exact (contract_row rowJson fun part member => each (rowJson.of_children member)).reword
      (Document.isListOf_iff textless rowJson).symm Iff.rfl
  rw [← bind_assoc]
  exact parts.map holds

theorem contract_shownUnder (json : (Document.object entries).IsJson number) (site : Stack.Site)
    (key : Text) :
    Contract (shownUnder (stack.room site) key entries)
      (∀ content ∈ lookup key entries, IsShown stack site content)
      (∃ content ∈ lookup key entries, ¬ IsShown stack site content) (fun _ => True) := by
  unfold shownUnder
  refine .under trivial (fun missing => by rw [missing]) fun content found => ?_
  rw [found]
  exact .limited (Document.gives_display_iff (json.of_lookup found))

/-! ### Attributes -/

theorem contract_argument (json : document.IsJson number) :
    Contract (argument room document) (IsArgument room document) (DerailsArgument room document)
      (Value.IsWellFormed number) := by
  unfold argument
  obtain ⟨entries, rfl⟩ | ⟨noEntries, noObject⟩ := object_or_entries?_eq_none json
  · have only : ∀ {holds : Document → Prop}, (∃ content ∈ lookup "value" entries, holds content) ↔
        ∃ entries', Document.object entries = .object entries' ∧
          ∃ content ∈ lookup "value" entries', holds content := by simp
    refine Contract.reword ?_ only only
    rw [(entries?_eq_some_iff json).mpr rfl, Option.bind_some]
    cases found : lookup "value" entries with
    | none => exact .fault (by simp) (by simp)
    | some content =>
        exact (contract_value room (json.of_lookup found)).reword (by simp) (by simp)
  · rw [noEntries]
    exact .fault (fun ⟨entries, same, _⟩ => noObject entries same)
      fun ⟨entries, same, _⟩ => noObject entries same

theorem contract_attributeOf (json : (Document.object entries).IsJson number) :
    Contract (attributeOf room entries) (IsAttribute room entries) (DerailsAttribute room entries)
      (AttributeDeclaration.IsWellFormed number) := by
  have textless : ∀ t, ¬ IsArgument room (.text t) := fun t ⟨_, same, _⟩ => nomatch same
  have read := (contract_requiredText "attribute" "name" entries).bind fun name named =>
    contract_elementsUnder "args" json textless contract_argument fun arguments given =>
      (⟨named, given⟩ : AttributeDeclaration.IsWellFormed number ⟨name, arguments⟩)
  exact read.reword Iff.rfl (by simp [DerailsAttribute])

theorem contract_fieldAttribute (json : document.IsJson number) :
    Contract (fieldAttribute room document) (IsFieldAttribute room document)
      (DerailsFieldAttribute room document) (AttributeDeclaration.IsWellFormed number) := by
  unfold fieldAttribute
  obtain ⟨entries, rfl⟩ | ⟨noEntries, noObject⟩ := object_or_entries?_eq_none json
  · rw [(entries?_eq_some_iff json).mpr rfl]
    exact (contract_attributeOf json).reword (by simp [IsFieldAttribute])
      (by simp [DerailsFieldAttribute])
  · rw [noEntries]
    exact .error (by simp [ReadingError.IsReported])
      (fun ⟨entries, same, _⟩ => noObject entries same)
      fun entries same => absurd same (noObject entries)

/-! ### Fields -/

/-- A call that was read for the type of a field is taken, and nothing else. -/
theorem contract_call (field : Text) {value : Value} (wellFormed : value.IsWellFormed number)
    (called : (∃ name arguments, value = .call name arguments) ↔ HasType "function" entries) :
    Contract (match value with
        | .call name arguments => pure (.call name arguments)
        | _ => fault (.unsupportedFieldType field))
      (HasType "function" entries) False (Value.IsType number) := by
  split
  · exact .ok (called.mp ⟨_, _, rfl⟩) not_false (.call wellFormed)
  · rename_i other
    refine .fault (fun kind => ?_) not_false
    obtain ⟨name, arguments, rfl⟩ := called.mpr kind
    exact other name arguments rfl

theorem contract_fieldType (room : Nat) (name : Text)
    (json : (Document.object entries).IsJson number) :
    Contract (fieldType room name entries)
      (∃ type ∈ lookup "fieldType" entries, IsFieldType room type)
      (∃ type ∈ lookup "fieldType" entries, DerailsFieldType room type) (Value.IsType number) := by
  -- A text that is not empty is the name of a type. All else has to be an object, and then a call.
  unfold fieldType
  split
  · rename_i p rest found
    have nonempty : p :: rest ≠ [] := List.cons_ne_nil p rest
    refine .ok ⟨_, found, Or.inl ⟨p :: rest, nonempty, rfl⟩⟩ ?_ (.named nonempty)
    rintro ⟨type, given, _, isObject, _⟩
    rw [found] at given
    cases given
    cases isObject
  · rename_i type noText found
    have only : ∀ {holds : Document → Prop}, holds type ↔
        ∃ other ∈ lookup "fieldType" entries, holds other := by simp [found]
    refine Contract.reword ?_ only only
    have typeJson := json.of_lookup found
    obtain ⟨parts, rfl⟩ | ⟨noEntries, noObject⟩ := object_or_entries?_eq_none typeJson
    · have read := ((contract_value room typeJson).also fun value => exists_call_iff).bind
        fun value ⟨wellFormed, called⟩ => contract_call name wellFormed called
      rw [(entries?_eq_some_iff typeJson).mpr rfl]
      exact read.reword (by simp [IsFieldType, IsNode, and_comm]) (by simp [DerailsFieldType])
    · rw [noEntries]
      refine .fault ?_ fun ⟨entries, same, _⟩ => noObject entries same
      rintro (⟨t, nonempty, rfl⟩ | ⟨entries, ⟨same, _⟩, _⟩)
      · cases t with
        | nil => exact nonempty rfl
        | cons p rest => exact noText p rest rfl
      · exact noObject entries same
  · rename_i missing
    exact .fault (by simp [missing]) (by simp [missing])

theorem contract_field (json : (Document.object entries).IsJson number) :
    Contract (field stack entries) (IsField stack entries) (DerailsField stack entries)
      (FieldDeclaration.IsWellFormed number) := by
  have textless : ∀ t, ¬ IsFieldAttribute (stack.room .fieldArgument) (.text t) :=
    fun t ⟨_, same, _⟩ => nomatch same
  have read := (contract_requiredText "field" "name" entries).bind fun name named =>
    (contract_fieldType (stack.room .fieldType) name json).bind fun type typed =>
      contract_elementsUnder "attributes" json textless contract_fieldAttribute
        fun attributes given =>
          (⟨named, typed, given⟩ : FieldDeclaration.IsWellFormed number
            ⟨name, type, flagUnder "array" entries, flagUnder "optional" entries, attributes⟩)
  exact read.reword Iff.rfl (by simp [DerailsField])

/-! ### Blocks -/

theorem contract_property (json : document.IsJson number) :
    Contract (property stack document) (IsProperty stack (IsShown stack) document)
      (DerailsProperty stack document)
      (Property.IsWellFormed number) := by
  refine contract_node "property" json ?_
  rintro kind entries ⟨rfl, typed⟩
  dsimp only
  split
  · exact (contract_field json).map fun _ given => given
  · split
    · exact (contract_attributeOf json).map fun _ given => given
    · exact (contract_shownUnder json .innerText "text").map fun _ _ => trivial

theorem contract_enumItem (json : document.IsJson number) :
    Contract (enumItem stack document) (IsEnumItem (IsShown stack) document)
      (DerailsEnumItem stack document) EnumItem.IsWellFormed := by
  refine contract_node "enumerator" json ?_
  rintro kind entries ⟨rfl, typed⟩
  dsimp only
  split
  · rename_i same
    have read : Contract
        (requiredText "enumerator" "name" entries >>= fun name => pure (EnumItem.value name))
        (HasText "name" entries) False EnumItem.IsWellFormed :=
      (contract_requiredText "enumerator" "name" entries).map fun _ given => given
    exact read.reword Iff.rfl (iff_of_false not_false fun ⟨other, _⟩ => other same)
  · rename_i other
    refine Contract.reword ((contract_shownUnder json .innerText "text").map fun _ _ => trivial)
      Iff.rfl ?_
    simp [other]

theorem contract_declaration (json : document.IsJson number) :
    Contract (declaration stack document) (IsDeclaration stack (IsShown stack) document)
      (DerailsDeclaration stack document) (Declaration.IsWellFormed number) := by
  have itemless : ∀ t, ¬ IsEnumItem (IsShown stack) (.text t) :=
    fun t ⟨_, _, ⟨same, _⟩, _⟩ => nomatch same
  have propertyless : ∀ t, ¬ IsProperty stack (IsShown stack) (.text t) :=
    fun t ⟨_, _, ⟨same, _⟩, _⟩ => nomatch same
  refine contract_node "block" json ?_
  rintro kind entries ⟨rfl, typed⟩
  dsimp only
  split
  · have read := (contract_requiredText "enum" "name" entries).bind fun name named =>
      contract_elementsUnder "enumerators" json itemless contract_enumItem fun items given =>
        show Declaration.IsWellFormed number (.enum name items) from ⟨named, given⟩
    exact read.reword Iff.rfl (by simp)
  · split
    · have read := (contract_requiredText "model" "name" entries).bind fun name named =>
        contract_elementsUnder "properties" json propertyless contract_property
          fun properties given =>
            show Declaration.IsWellFormed number (.model name properties) from ⟨named, given⟩
      exact read.reword Iff.rfl (by simp)
    · split
      · exact (contract_shownUnder json .blockText "text").map fun _ _ => trivial
      · rename_i noEnum noModel noComment
        refine (contract_shownUnder json .blockText "name").map fun _ _ => ?_
        simp [Declaration.IsWellFormed, Declaration.kinds, noEnum, noModel, noComment]

theorem contract_schemaEntries (json : document.IsJson number) :
    Contract (schemaEntries document) (∃ entries, IsNode "schema" entries document) False
      (IsNode "schema" · document) := by
  unfold schemaEntries
  split
  · rename_i entries found
    have isObject := (entries?_eq_some_iff json).mp found
    have refused : ¬ HasType "schema" entries → Contract (fault .notASchema)
        (∃ entries, IsNode "schema" entries document) False (IsNode "schema" · document) := by
      refine fun untyped => .fault ?_ not_false
      rintro ⟨_, same, typed⟩
      cases isObject.symm.trans same
      exact untyped typed
    split
    · rename_i kind typed
      split
      · rename_i same
        subst same
        exact .ok ⟨entries, isObject, typed⟩ not_false ⟨isObject, typed⟩
      · rename_i other
        exact refused fun typed' => other (HasType.unique typed typed')
    · rename_i untyped
      exact refused (untyped _)
  · rename_i noObject
    refine .fault ?_ not_false
    rintro ⟨entries, same, _⟩
    rw [(entries?_eq_some_iff json).mpr same] at noObject
    cases noObject

/-- The reading of the blocks of a schema. -/
theorem contract_blocks (json : (Document.object entries).IsJson number)
    (typed : HasType "schema" entries) :
    Contract (match (lookup "list" entries).bind Document.items? with
        | some blocks => blocks.mapM (declaration stack) >>= fun declarations =>
            pure (⟨declarations⟩ : Schema)
        | none => fault .noDeclarations)
      (IsSchema stack (IsShown stack) (.object entries)) (DerailsSchema stack (.object entries))
      (Schema.IsWellFormed number) := by
  cases listed : (lookup "list" entries).bind Document.items? with
  | none =>
      have unlisted : ∀ blocks, .list blocks ∉ lookup "list" entries := by
        intro blocks given
        rw [Option.mem_def.mp given] at listed
        cases listed
      refine .fault ?_ ?_
      · rintro ⟨_, ⟨⟨⟩, _⟩, blocks, given, _⟩
        exact unlisted blocks given
      · rintro ⟨_, ⟨⟨⟩, _⟩, blocks, given, _⟩
        exact unlisted blocks given
  | some blocks =>
      obtain ⟨content, found, isList⟩ := Option.bind_eq_some_iff.mp listed
      have listJson := json.of_lookup found
      obtain rfl := (items?_eq_some_iff listJson).mp isList
      have only : ∀ holds : List Document → Prop, holds blocks ↔
          ∃ entries', IsNode "schema" entries' (.object entries) ∧
            ∃ blocks', .list blocks' ∈ lookup "list" entries' ∧ holds blocks' := by
        intro holds
        constructor
        · exact fun given => ⟨entries, ⟨rfl, typed⟩, blocks, found, given⟩
        · rintro ⟨_, ⟨⟨⟩, _⟩, blocks', found', given⟩
          cases found.symm.trans found'
          exact given
      have read : Contract (blocks.mapM (declaration stack))
          (∀ block ∈ blocks, IsDeclaration stack (IsShown stack) block)
          (FirstDerails (IsDeclaration stack (IsShown stack)) (DerailsDeclaration stack) blocks)
          (fun declarations => ∀ made ∈ declarations, made.IsWellFormed number) :=
        .mapM fun block member => contract_declaration (listJson.of_children member)
      exact (read.map fun _ given => given).reword
        (only fun blocks => ∀ block ∈ blocks, IsDeclaration stack (IsShown stack) block)
        (only (FirstDerails (IsDeclaration stack (IsShown stack)) (DerailsDeclaration stack)))

/-- A document is read as a schema exactly where it is one, and what is read is well-formed. -/
theorem contract_ofDocument (json : document.IsJson number) :
    Contract (Schema.ofDocument stack document) (IsSchema stack (IsShown stack) document)
      (DerailsSchema stack document) (Schema.IsWellFormed number) := by
  have blocks : ∀ entries, IsNode "schema" entries document →
      Contract (match (lookup "list" entries).bind Document.items? with
          | some blocks => blocks.mapM (declaration stack) >>= fun declarations =>
              pure (⟨declarations⟩ : Schema)
          | none => fault .noDeclarations)
        (IsSchema stack (IsShown stack) document) (DerailsSchema stack document)
        (Schema.IsWellFormed number) := by
    rintro entries ⟨rfl, typed⟩
    exact contract_blocks json typed
  refine ((contract_schemaEntries json).bind blocks).reword ?_ ?_
  · exact and_iff_right_of_imp fun ⟨entries, isNode, _⟩ => ⟨entries, isNode⟩
  · rw [false_or]
    exact and_iff_right_of_imp fun ⟨entries, isNode, _⟩ => ⟨entries, isNode⟩

/-! ### Small documents -/

/-- The document of a schema. -/
def schemaOf (blocks : List Document) : Document :=
  .ofFields [("type", .text "schema"), ("list", .list blocks)]

/-- The document of an enum with some values. -/
def enumOf (name : Text) (items : Document) : Document :=
  .ofFields [("type", .text "enum"), ("name", .text name), ("enumerators", items)]

/-- The document of a model with some fields. -/
def modelOf (name : Text) (fields : List Document) : Document :=
  .ofFields [("type", .text "model"), ("name", .text name), ("properties", .list fields)]

/-- The document of a field of some type and with some attributes. -/
def fieldOf (name : Text) (type attributes : Document) : Document :=
  .ofFields [("type", .text "field"), ("name", .text name), ("fieldType", type),
    ("attributes", attributes)]

/-- The document of a call with some arguments. -/
def callOf (name : Text) (params : Document) : Document :=
  .ofFields [("type", .text "function"), ("name", .text name), ("params", params)]

/-- The document of a comment. -/
def commentOf (text : Document) : Document :=
  .ofFields [("type", .text "comment"), ("text", text)]

/-! ### The documents that are read -/

/-- The documents that are read as schemas are those of the grammar the values of which do not nest
more deeply than there is room, and in which every text that is kept from a node passed over can be
shown. -/
theorem exists_schema_iff_isSchema (json : document.IsJson number) :
    (∃ schema, Schema.ofDocument stack document = .ok schema) ↔
      IsSchema stack (IsShown stack) document :=
  (contract_ofDocument json).accepted_iff

/-- A field the type of which is a call with a text for its row of arguments. -/
def circles : Document :=
  schemaOf [modelOf "Circle" [fieldOf "area" (callOf "Unsupported" (.text "ab")) .null]]

theorem isSchema_circles :
    circles.IsJson (fun _ => True) ∧ IsSchema .usual (IsShown .usual) circles := by
  have json : circles.IsJson fun _ => True := by
    simp [circles, schemaOf, modelOf, fieldOf, callOf]
  exact ⟨json, (exists_schema_iff_isSchema json).mp ⟨_, rfl⟩⟩

theorem isJson_schemaOf_comment {content : Document} (json : content.IsJson number) :
    (schemaOf [commentOf content]).IsJson number := by
  simpa [schemaOf, commentOf] using json

/-- The least number with too many digits. -/
def unshowableNumber : Nat := Nat.pow 10 Text.maxDigits

theorem isShowable_eq_false_of_le {n : Nat} (great : unshowableNumber ≤ n) :
    Text.isShowable n = false := by
  unfold unshowableNumber at great
  rw [Text.isShowable, Int.natAbs_natCast, decide_eq_false_iff_not]
  exact Nat.not_lt.mpr great

theorem not_isShown_of_le {n : Nat} (great : unshowableNumber ≤ n) (site : Stack.Site) :
    ¬ IsShown stack site (.int n) := by
  rintro (⟨t, ⟨⟩⟩ | ⟨showable, _⟩)
  rw [Document.isShowable, isShowable_eq_false_of_le great] at showable
  cases showable

/-- A comment the text of which is a number with too many digits. -/
def numberComment : Document := schemaOf [commentOf (.int unshowableNumber)]

/-- Not every document of the grammar is read, however much room there is and whatever stands in the
nodes that are passed over. -/
theorem not_all_passed_over :
    ¬ ∀ document : Document, document.IsJson (fun _ => True) →
      ((∃ schema, Schema.ofDocument .usual document = .ok schema) ↔
        ∃ stack, IsSchema stack (fun _ _ => True) document) := by
  intro passed
  have json : numberComment.IsJson fun _ => True := isJson_schemaOf_comment (.int _)
  have grammatical : IsSchema .usual (fun _ _ => True) numberComment := by
    refine ⟨_, ⟨rfl, rfl⟩, _, rfl, fun block member => ?_⟩
    cases member with
    | head => exact ⟨"comment", _, ⟨rfl, rfl⟩, fun _ _ => trivial⟩
    | tail _ none => cases none
  have shown := (contract_ofDocument json).accepted_iff.mp ((passed _ json).mpr ⟨_, grammatical⟩)
  obtain ⟨_, ⟨⟨⟩, _⟩, blocks, listed, each⟩ := shown
  cases listed
  obtain ⟨kind, _, ⟨⟨⟩, typed⟩, holds⟩ := each _ (.head _)
  cases typed
  exact not_isShown_of_le (Nat.le_refl _) _ (holds _ rfl)

/-! ### The documents that derail -/

/-- Whether a reading ends as it should: with a schema, or with a report about the document. -/
def Settles (outcome : Except ReadingError Schema) : Prop :=
  (∃ schema, outcome = .ok schema) ∨
    ∃ error report, outcome = .error error ∧
      Failure.ofReading error = .reported "SchemaLoadError" report

theorem isReported_iff {error : ReadingError} :
    error.IsReported ↔ ∃ report, Failure.ofReading error = .reported "SchemaLoadError" report := by
  constructor
  · rintro ⟨fault, rfl⟩
    exact ⟨_, rfl⟩
  · rintro ⟨report, same⟩
    cases error with
    | malformed fault => exact ⟨fault, rfl⟩
    | _ => cases same

/-- A document is read as a schema or reported, unless its reading derails: in the first block that
is none, a value that has no parts stands in the place of a row, something that is no object stands
in the place of an attribute, something has to be shown that cannot be, or there is no room for what
is to be read or reported. -/
theorem settles_iff_not_derails (json : document.IsJson number) :
    Settles (Schema.ofDocument stack document) ↔ ¬ DerailsSchema stack document := by
  rw [← (contract_ofDocument json).derails_iff]
  unfold Settles
  cases outcome : Schema.ofDocument stack document with
  | ok schema => simp
  | error error => simp [← isReported_iff]

/-- A model with a field that has a text in the place of an attribute. -/
def textAttribute : Document :=
  schemaOf [modelOf "Post" [fieldOf "id" (.text "Int") (.list [.text "id"])]]

theorem textAttribute_derails :
    textAttribute.IsJson (fun _ => True) ∧ DerailsSchema .usual textAttribute ∧
      ¬ Settles (Schema.ofDocument .usual textAttribute) := by
  have json : textAttribute.IsJson fun _ => True := by
    simp [textAttribute, schemaOf, modelOf, fieldOf]
  have astray : ¬ Settles (Schema.ofDocument .usual textAttribute) := by
    rintro (⟨schema, read⟩ | ⟨error, report, read, reported⟩)
    · cases read
    · cases read
      cases reported
  exact ⟨json, Classical.not_not.mp ((not_congr (settles_iff_not_derails json)).mp astray), astray⟩

/-- Not every document is read or reported: an enum may have a number in the place of its values. -/
theorem not_every_document_settles :
    ¬ ∀ document : Document, document.IsJson (fun _ => True) →
      Settles (Schema.ofDocument .usual document) := by
  intro settled
  have json : (schemaOf [enumOf "Role" (.int 3)]).IsJson fun _ => True := by
    simp [schemaOf, enumOf]
  rcases settled _ json with ⟨schema, read⟩ | ⟨error, report, read, reported⟩
  · cases read
  · cases read
    cases reported

end PrismaEsdl.Prisma.Reading
