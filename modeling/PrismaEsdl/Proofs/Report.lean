import PrismaEsdl.Proofs.Table
import PrismaEsdl.Report

/-!
What a report says.

A problem has something to say under some keys (`Says`), and it does so in the order of `ownKeys`.
In a report this comes after what the reporter gives as context; where the reporter uses the same
key, the entry stays in its place and the problem decides over its content. Suggestions of the
reporter take the place of those of the problem, and only a problem in general takes a code. The
text of a report lists its parts in a fixed order and leaves out those that are empty (`Lists`).
`report_merges_context` states all of this for every problem and everything a reporter may give.
-/

namespace PrismaEsdl

namespace Report

/-- The lines of a list in a report: a title and the items, or nothing if there is no item. -/
inductive Section (title : Text) : List Text → List Text → Prop where
  | absent : Section title [] []
  | present {items : List Text} : items ≠ [] → Section title items (title :: items)

/-- The lines about a code, which may be missing or empty. -/
inductive CodeLines : Option Text → List Text → Prop where
  | none : CodeLines none []
  | empty : CodeLines (some []) []
  | present {code : Text} : code ≠ [] → CodeLines (some code) ["Error Code: " ++ code]

/-- A text lists a report: the message, then the code, all entries of the context and all
suggestions, each of these where there is something to list. -/
def Lists (report : Report) (text : Text) : Prop :=
  ∃ code context suggestions, CodeLines report.code code ∧
    Section "Context:"
      (report.context.entries.map fun (key, content) => "  " ++ key ++ ": " ++ content) context ∧
    Section "Suggestions:" (report.suggestions.map fun suggestion => "  • " ++ suggestion)
      suggestions ∧
    text = Text.join "\n" (report.message :: code ++ context ++ suggestions)

theorem codeLines_of_report (report : Report) : CodeLines report.code report.codeLines := by
  unfold codeLines
  split
  · rename_i p rest given
    rw [given]
    exact .present (List.cons_ne_nil p rest)
  · rename_i absent
    cases given : report.code with
    | none => exact .none
    | some code =>
        cases code with
        | nil => exact .empty
        | cons p rest => exact absurd given (absent p rest)

theorem section_of_section? (title : Text) (items : List Text) :
    Section title items (section? title items) := by
  cases items with
  | nil => exact .absent
  | cons item rest => exact .present (List.cons_ne_nil item rest)

theorem lists_toText (report : Report) : report.Lists report.toText :=
  ⟨_, _, _, codeLines_of_report report, section_of_section? _ _, section_of_section? _ _, rfl⟩

end Report

namespace Problem

/-! ### What a problem says -/

/-- The keys under which field errors have something to say beside the field. -/
def detailKeys : List Text := ["target", "candidates", "id_fields", "type"]

/-- The keys under which problems name what they are about. -/
def placeKeys : List Text := ["model", "field", "config_file", "path", "node"]

/-- The keys under which problems have something to say, in the order in which they do. -/
def ownKeys : List Text := detailKeys ++ placeKeys

/-- What a problem says under a key. Of a model, a field, a file or a node it says nothing where
none is named. -/
inductive Says : Problem → Text → Text → Prop where
  | missingTarget {model field target : Text} :
      Says (.unplaceable (.missingRelationTarget model field target)) "target" target
  | ambiguousTarget {model field target : Text} {candidates : List Text} :
      Says (.unplaceable (.ambiguousBacklink model field target candidates)) "target" target
  | candidates {model field target : Text} {candidates : List Text} :
      Says (.unplaceable (.ambiguousBacklink model field target candidates)) "candidates"
        (Text.join ", " candidates)
  | idFields {model field : Text} {idFields : List Text} :
      Says (.unplaceable (.compositeKey model field idFields)) "id_fields"
        (Text.join ", " idFields)
  | scalarType {model field type : Text} :
      Says (.unplaceable (.unknownScalar model field type)) "type" type
  | callType {model field type : Text} :
      Says (.unplaceable (.callType model field type)) "type" type
  | placedModel {error : Conversion.PlacementError} : error.model ≠ [] →
      Says (.unplaceable error) "model" error.model
  | placedField {error : Conversion.PlacementError} : error.field ≠ [] →
      Says (.unplaceable error) "field" error.field
  | model {message model : Text} {field : Option Text} : model ≠ [] →
      Says (.conversion message (some model) field) "model" model
  | field {message field : Text} {model : Option Text} : field ≠ [] →
      Says (.conversion message model (some field)) "field" field
  | file {message file : Text} : file ≠ [] →
      Says (.configuration message (some file)) "config_file" file
  | path {message path : Text} {node : Option Text} : path ≠ [] →
      Says (.schemaDocument message (some path) node) "path" path
  | node {message node : Text} {path : Option Text} : node ≠ [] →
      Says (.schemaDocument message path (some node)) "node" node

theorem ownKeys_nodup : ownKeys.Nodup := by decide

theorem mem_entry?_iff {key other content : Text} {given : Option Text} :
    (other, content) ∈ entry? key given ↔ other = key ∧ content ≠ [] ∧ given = some content := by
  unfold entry?
  split
  · rename_i p rest
    constructor
    · intro member
      cases List.mem_singleton.mp member
      exact ⟨rfl, List.cons_ne_nil p rest, rfl⟩
    · rintro ⟨rfl, _, same⟩
      cases same
      exact List.mem_singleton_self _
  · rename_i absent
    refine iff_of_false List.not_mem_nil ?_
    rintro ⟨_, nonempty, rfl⟩
    cases content with
    | nil => exact nonempty rfl
    | cons p rest => exact absent p rest rfl

theorem keys_entry?_sublist (key : Text) (given : Option Text) :
    (List.map Prod.fst <| entry? key given).Sublist [key] := by
  unfold entry?
  split
  · exact List.Sublist.refl _
  · exact List.nil_sublist _

/-- The details of a field error are what it says before it names the field. -/
theorem says_of_mem_fieldDetails {error : Conversion.PlacementError} {key content : Text}
    (member : (key, content) ∈ fieldDetails error) : Says (.unplaceable error) key content := by
  cases error with
  | missingRelationTarget model field target =>
      cases List.mem_singleton.mp member
      exact .missingTarget
  | ambiguousBacklink model field target candidates =>
      rcases List.mem_cons.mp member with same | member
      · cases same
        exact .ambiguousTarget
      · cases List.mem_singleton.mp member
        exact .candidates
  | compositeKey model field idFields =>
      cases List.mem_singleton.mp member
      exact .idFields
  | unknownScalar model field type =>
      cases List.mem_singleton.mp member
      exact .scalarType
  | callType model field type =>
      cases List.mem_singleton.mp member
      exact .callType

/-- The entries of a problem are what it says. -/
theorem mem_entries_iff {problem : Problem} {key content : Text} :
    (key, content) ∈ problem.entries ↔ Says problem key content := by
  constructor
  · intro member
    cases problem with
    | general message code => cases member
    | configuration message file =>
        obtain ⟨rfl, named, rfl⟩ := mem_entry?_iff.mp member
        exact .file named
    | schemaDocument message path node =>
        rcases List.mem_append.mp member with member | member
        · obtain ⟨rfl, named, rfl⟩ := mem_entry?_iff.mp member
          exact .path named
        · obtain ⟨rfl, named, rfl⟩ := mem_entry?_iff.mp member
          exact .node named
    | conversion message model field =>
        rcases List.mem_append.mp member with member | member
        · obtain ⟨rfl, named, rfl⟩ := mem_entry?_iff.mp member
          exact .model named
        · obtain ⟨rfl, named, rfl⟩ := mem_entry?_iff.mp member
          exact .field named
    | unplaceable error =>
        rcases List.mem_append.mp member with member | member
        · rcases List.mem_append.mp member with member | member
          · exact says_of_mem_fieldDetails member
          · obtain ⟨rfl, named, same⟩ := mem_entry?_iff.mp member
            cases same
            exact .placedModel named
        · obtain ⟨rfl, named, same⟩ := mem_entry?_iff.mp member
          cases same
          exact .placedField named
  · intro said
    cases said <;> simp_all [entries, fieldDetails, mem_entry?_iff]

theorem keys_entries?_sublist (key key' : Text) (given given' : Option Text) :
    (List.map Prod.fst <| entry? key given ++ entry? key' given').Sublist [key, key'] := by
  rw [List.map_append]
  exact (keys_entry?_sublist key given).append (keys_entry?_sublist key' given')

theorem keys_fieldDetails_sublist (error : Conversion.PlacementError) :
    ((fieldDetails error).map Prod.fst).Sublist detailKeys := by
  have last : (["type"] : List Text).Sublist detailKeys := by decide
  cases error with
  | missingRelationTarget model field target => exact (List.nil_sublist _).cons_cons _
  | ambiguousBacklink model field target candidates =>
      exact ((List.nil_sublist _).cons_cons _).cons_cons _
  | compositeKey model field idFields => exact (((List.nil_sublist _).cons_cons _).cons _).cons _
  | unknownScalar model field type => exact last
  | callType model field type => exact last

/-- They come in the order of the keys. -/
theorem keys_entries_sublist (problem : Problem) :
    (problem.entries.map Prod.fst).Sublist ownKeys := by
  have place : (["model", "field"] : List Text).Sublist placeKeys := by decide
  have named : placeKeys.Sublist ownKeys := List.sublist_append_right detailKeys placeKeys
  cases problem with
  | general message code => exact List.nil_sublist _
  | configuration message file =>
      have last : (["config_file"] : List Text).Sublist placeKeys := by decide
      exact ((keys_entry?_sublist "config_file" file).trans last).trans named
  | schemaDocument message path node =>
      have last : (["path", "node"] : List Text).Sublist placeKeys := by decide
      exact ((keys_entries?_sublist "path" "node" path node).trans last).trans named
  | conversion message model field =>
      exact ((keys_entries?_sublist "model" "field" model field).trans place).trans named
  | unplaceable error =>
      rw [entries, List.append_assoc, List.map_append]
      exact (keys_fieldDetails_sublist error).append
        ((keys_entries?_sublist "model" "field" _ _).trans place)

theorem keys_entries_nodup (problem : Problem) : (problem.entries.map Prod.fst).Nodup :=
  (keys_entries_sublist problem).nodup ownKeys_nodup

/-! ### Reports -/

@[simp] theorem entries_withCode (problem : Problem) (code : Option Text) :
    (problem.withCode code).entries = problem.entries := by
  cases problem <;> rfl

@[simp] theorem message_withCode (problem : Problem) (code : Option Text) :
    (problem.withCode code).message = problem.message := by
  cases problem <;> rfl

@[simp] theorem suggestions_withCode (problem : Problem) (code : Option Text) :
    (problem.withCode code).suggestions = problem.suggestions := by
  cases problem <;> rfl

/-- A report on a problem merges what the problem says into the context that its reporter gives.
The keys of the context stay where they are, and the other keys of the problem follow in their
order, so that no key comes twice; under its own keys the problem decides. The reporter's
suggestions count if there are any, and the problem's own ones otherwise; the reporter's code
counts only if the problem is one in general. The text of the report lists all of this. -/
theorem report_merges_context (problem : Problem) (context : Table Text Text)
    (suggestions : List Text) (code : Option Text) :
    let report := (problem.withCode code).report context suggestions
    (∃ own : List Text, own.Sublist ownKeys ∧
      (∀ key, key ∈ own ↔ ∃ content, Says problem key content) ∧
      report.context.keys = context.keys ++ own.filter (!context.contains ·)) ∧
    report.context.keys.Nodup ∧
    (∀ key content, report.context.get? key = some content ↔
      Says problem key content ∨
        (∀ own, ¬ Says problem key own) ∧ context.get? key = some content) ∧
    report.message = problem.message ∧
    report.suggestions = (if suggestions = [] then problem.suggestions else suggestions) ∧
    (report.code = match problem with
      | .general .. => code
      | problem => problem.code) ∧
    report.Lists report.toText := by
  intro report
  have context_eq : report.context = context.insertMany problem.entries :=
    congrArg context.insertMany (entries_withCode problem code)
  have distinct := keys_entries_nodup problem
  have said : ∀ key, key ∈ problem.entries.map Prod.fst ↔ ∃ content, Says problem key content := by
    intro key
    simp [← mem_entries_iff]
  refine ⟨⟨_, keys_entries_sublist problem, said, ?_⟩, Table.keys_nodup _, ?_,
    message_withCode problem code, ?_, ?_, Report.lists_toText report⟩
  · rw [context_eq, Table.keys_insertMany_of_nodup context distinct]
  · intro key content
    rw [context_eq, Table.get?_insertMany_of_nodup distinct, mem_entries_iff, said, not_exists]
  · have own : report.suggestions
        = if suggestions.isEmpty then problem.suggestions else suggestions := by
      rw [← suggestions_withCode problem code]
      rfl
    simp only [own, List.isEmpty_iff]
  · cases problem <;> rfl

end Problem

end PrismaEsdl
