import PrismaEsdl.Prisma.Loading
import PrismaEsdl.Proofs.Json.Nodes
import PrismaEsdl.Proofs.Log.Run
import PrismaEsdl.Proofs.Prisma.Reading
import PrismaEsdl.Proofs.Yaml.Meaning
import PrismaEsdl.Proofs.Yaml.Stream

/-!
Loading schemas from JSON files.

A file that holds the JSON text of a document is read as YAML, so it means the document that the
text is read back as (`json_file_outcome`). That is the document itself if it is plain and there is
no fault in its text. Numbers such as 1e16 are written without a point, and are read back as texts
(`not_every_json_file_means_its_document`).
-/

namespace PrismaEsdl

/-! ### Texts -/

/-- The first fault in the text of a document, where no more than a limit of collections may stand
around a node. Where a tab is used as indentation, no collection is read unless it is empty. -/
def Document.textFault (limit : Nat) (layout : Json.Layout) (document : Document) :
    Option Yaml.Fault :=
  if layout.hasTab && document.hasParts then some .malformed else document.fault limit

variable {limit : Nat} {stack : Stack}

theorem Yaml.Graph.ofTokens?_broken (fault : Fault) :
    ofTokens? limit [.broken fault] = .error fault := by
  have reads : (read ⟨.default, limit, []⟩ .block 12).run ⟨[.broken fault], [], .empty⟩
      = .error fault := by
    rw [read]
    rfl
  exact congrArg (fun outcome => some <$> (outcome >>= fun ended => do
    checkEnd ended.2.tokens
    return (ended.2.graph, ended.1))) reads

/-- The text of a document means what the document is read back as. -/
theorem Yaml.read_toJson {layout : Json.Layout} (blanks : layout.HasBlanks) {document : Document}
    (json : document.IsJson Binary64.IsCanonical) (showable : document.isShowable = true) :
    Yaml.read limit (.whole (document.toJson layout)) = match document.textFault limit layout with
      | some fault => .error fault
      | none => .ok document.reread := by
  rw [Yaml.read, Graph.ofStream?, Lexer.ofStream_toJson_eq blanks json, Document.textFault]
  split
  next => rw [Graph.ofTokens?_broken]; rfl
  next =>
    have tokens := @Graph.ofTokens?_tokens limit document json showable
    cases faulty : document.fault limit with
    | some fault =>
      rw [faulty] at tokens
      rw [show Graph.ofTokens? limit _ = .error fault from tokens]
      rfl
    | none =>
      rw [faulty] at tokens
      obtain ⟨g, root, tokens_eq, acyclic, stands⟩ := tokens
      rw [tokens_eq]
      exact Meaning.ofGraph_eq stands acyclic

/-- A file whose bytes write a text that may stand means what the text as a whole means. -/
theorem Yaml.readContent_eq_read {content : List UInt8} {t : Text}
    (decoded : Files.text? content = some t) (allowed : ∀ p ∈ t, isAllowed p = true) :
    readContent stack content = read stack.nodes (.whole t) := by
  rw [readContent, Stream.ofBytes_eq_whole decoded allowed]

/-- A file with the text of a document means what the document is read back as. -/
theorem Yaml.readContent_toJson {content : List UInt8} {layout : Json.Layout}
    (blanks : layout.HasBlanks) {document : Document}
    (json : document.IsJson Binary64.IsCanonical) (showable : document.isShowable = true)
    (written : Text.Utf8.encode? (document.toJson layout) = some content) :
    readContent stack content = match document.textFault stack.nodes layout with
      | some fault => .error fault
      | none => .ok document.reread := by
  have ascii : (document.toJson layout).IsAscii := Document.isAscii_toJsonIn blanks json 0
  rw [readContent_eq_read (Files.text?_of_encode? ascii written) (Lexer.isAllowed_of_isAscii ascii),
    read_toJson blanks json showable]

namespace Prisma.Loading

/-! ### Files -/

/-- The outcome of reading a document from a file: what is reported names its path. -/
def outcomeAt (stack : Stack) (path : Files.Path) (document : Document) :
    Except Failure Schema :=
  (Schema.ofDocument stack document).mapError fun error => withPath path (.ofReading error)

theorem outcome_readSchema (document : Document) :
    (readSchema stack document).outcome = Schema.ofDocument stack document := by
  unfold readSchema
  rw [Log.Run.outcome_bind, Log.Run.outcome_ofExcept]
  cases Schema.ofDocument stack document <;> rfl

/-- A file with a supported suffix is read as YAML, and then as a schema. -/
theorem outcome_load {path : Files.Path} {content : List UInt8}
    (supported : suffixes.contains path.suffix.lowerAscii = true) :
    (load stack path (.file content)).outcome
      = (Yaml.readFile stack (malformed path) content).bind (outcomeAt stack path) := by
  unfold load
  rw [if_neg (by rw [supported]; decide)]
  dsimp only
  rw [Log.Run.outcome_bind, Log.Run.outcome_ofExcept]
  congr 1
  funext document
  rw [Log.Run.outcome_bind_of_ok (Log.Run.outcome_tell _)]
  exact congrArg (Except.mapError _) (outcome_readSchema document)

variable {path : Files.Path} {content : List UInt8} {layout : Json.Layout} {document : Document}

theorem readFile_toJson (blanks : layout.HasBlanks) (json : document.IsJson Binary64.IsCanonical)
    (showable : document.isShowable = true)
    (written : Text.Utf8.encode? (document.toJson layout) = some content) :
    Yaml.readFile stack (malformed path) content
      = match document.textFault stack.nodes layout with
        | some fault => .error (Yaml.failureOf (malformed path) fault)
        | none => .ok document.reread := by
  rw [Yaml.readFile, Yaml.readContent_toJson blanks json showable written]
  cases document.textFault stack.nodes layout <;> rfl

/-- The file of a JSON document has the outcome of the document that its text is read back as,
unless there is a fault in the text; and that is the document itself if it is plain. -/
theorem json_file_outcome (json : document.IsJson Binary64.IsCanonical)
    (showable : document.isShowable = true) (blanks : layout.HasBlanks)
    (suffix : path.suffix.lowerAscii = ".json")
    (written : Text.Utf8.encode? (document.toJson layout) = some content) :
    (load stack path (.file content)).outcome
      = (match document.textFault stack.nodes layout with
        | some fault => .error (Yaml.failureOf (malformed path) fault)
        | none => outcomeAt stack path document.reread) ∧
    (document.reread = document ↔ document.IsPlain) := by
  refine ⟨?_, Document.reread_eq_self_iff json⟩
  rw [outcome_load (by rw [suffix]; decide), readFile_toJson blanks json showable written]
  cases document.textFault stack.nodes layout <;> rfl

/-! ### Small files -/

/-- The document of a model with a field that has a default value. -/
def defaulted (value : Document) : Document :=
  Reading.schemaOf [Reading.modelOf "M" [Reading.fieldOf "x" (.text "Float") (.list [
    .ofFields [("name", .text "default"),
      ("args", .list [.ofFields [("value", value)]])]])]]

theorem isJson_defaulted {x : Binary64} (canonical : x.IsCanonical) :
    (defaulted (.float x)).IsJson Binary64.IsCanonical := by
  have json : (Document.float x).IsJson Binary64.IsCanonical := .float canonical
  simp [defaulted, Reading.schemaOf, Reading.modelOf, Reading.fieldOf, json]

/-- The number 0.5. -/
def oneHalf : Binary64 := .finite false (2 ^ 52) (-53)

/-- The number 1e16. -/
def tenQuadrillion : Binary64 := .finite false (5 ^ 16 * 2 ^ 15) 1

theorem isCanonical_oneHalf : oneHalf.IsCanonical :=
  ⟨by decide, by decide, by decide, by decide⟩

theorem isCanonical_tenQuadrillion : tenQuadrillion.IsCanonical :=
  ⟨by decide, by decide, by decide, by decide⟩

theorem toText_oneHalf : oneHalf.toText .plain = "0.5" := rfl

theorem toText_tenQuadrillion : tenQuadrillion.toText .plain = "1e+16" := rfl

theorem textFault_defaulted (x : Binary64) (layout : Json.Layout) (noTab : layout.hasTab = false) :
    (defaulted (.float x)).textFault Stack.usual.nodes layout = none := by
  rw [Document.textFault, noTab]
  rfl

theorem reread_defaulted (x : Binary64) :
    (defaulted (.float x)).reread = defaulted (Document.float x).reread := by
  rfl

/-- Where a file may be. -/
def somewhere : Files.Path := ⟨.workingDirectory, ["s.json"]⟩

/-- The file of a document with a default of 0.5 means the document. -/
theorem half_is_read_back :
    ∃ content,
      Text.Utf8.encode? ((defaulted (.float oneHalf)).toJson (.lines "  ")) = some content ∧
      (load .usual somewhere (.file content)).outcome
        = outcomeAt .usual somewhere (defaulted (.float oneHalf)) := by
  have json := isJson_defaulted isCanonical_oneHalf
  have blanks : (Json.Layout.lines "  ").HasBlanks :=
    show ∀ p ∈ Text.ofString "  ", p = .char ' ' ∨ p = .char '\t' by decide
  have suffix : somewhere.suffix.lowerAscii = ".json" := by decide
  obtain ⟨content, written⟩ := Text.exists_encode? (Document.isAscii_toJsonIn blanks json 0)
  have point : .char '.' ∈ oneHalf.toText .plain := by
    rw [toText_oneHalf]
    decide
  refine ⟨content, written, ?_⟩
  rw [(json_file_outcome json rfl blanks suffix written).1, textFault_defaulted _ _ (by decide)]
  rw [reread_defaulted, Document.reread, if_pos point]

/-- Not every JSON file means its document: a default of 1e16 is read back as a text. -/
theorem not_every_json_file_means_its_document :
    ¬ ∀ (path : Files.Path) (content : List UInt8) (layout : Json.Layout) (document : Document),
      document.IsJson Binary64.IsCanonical → document.isShowable = true → layout.HasBlanks →
      path.suffix.lowerAscii = ".json" →
      Text.Utf8.encode? (document.toJson layout) = some content →
      (load .usual path (.file content)).outcome = outcomeAt .usual path document := by
  intro means
  have json := isJson_defaulted isCanonical_tenQuadrillion
  have blanks : Json.Layout.line.HasBlanks := trivial
  have suffix : somewhere.suffix.lowerAscii = ".json" := by decide
  obtain ⟨content, written⟩ := Text.exists_encode? (Document.isAscii_toJsonIn blanks json 0)
  have pointless : .char '.' ∉ tenQuadrillion.toText .plain := by
    rw [toText_tenQuadrillion]
    decide
  have same := means somewhere content .line _ json rfl blanks suffix written
  rw [outcome_load (by rw [suffix]; decide), readFile_toJson blanks json rfl written,
    textFault_defaulted _ _ rfl, reread_defaulted, Document.reread, if_neg pointless] at same
  cases same

end Prisma.Loading

end PrismaEsdl
