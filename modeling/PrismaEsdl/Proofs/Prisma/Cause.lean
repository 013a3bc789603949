import PrismaEsdl.Proofs.Prisma.Fault
import PrismaEsdl.Proofs.Prisma.Loading
import PrismaEsdl.Proofs.Table

/-!
Why no schema is loaded.

What is reported about a file has one of four causes: its suffix, that there is no file, a text that
is not well-formed, or a fault of the document (`Cause`). Each cause has a report of its own that
does not know of the file; that of a fault names the kind of node that it was met in. Whatever the
cause, the report about the file is the one of the cause with the path at the end of its context
(`reported_iff_arises`).
-/

namespace PrismaEsdl

/-! ### Paths -/

theorem Text.join_ne_nil {first : Text} (nonempty : first ≠ []) (separator : Text)
    (rest : List Text) : Text.join separator (first :: rest) ≠ [] := by
  obtain ⟨p, later, rfl⟩ := List.exists_cons_of_ne_nil nonempty
  cases rest with
  | nil => simp [Text.join]
  | cons second rest => simp [Text.join, List.intercalate]

namespace Files.Path

/-- Also the path that means nothing but the working directory is written in some way. -/
theorem toText_ne_nil {path : Path} (named : ∀ name ∈ path.names, name ≠ []) :
    path.toText ≠ [] := by
  obtain ⟨anchor, names⟩ := path
  cases anchor with
  | root => exact List.cons_ne_nil slash _
  | doubleRoot => exact List.cons_ne_nil slash _
  | workingDirectory =>
      cases names with
      | nil => exact List.cons_ne_nil (CodePoint.char '.') []
      | cons name rest => exact Text.join_ne_nil (named name (.head rest)) [slash] rest

theorem toText_ofText_ne_nil (t : Text) : (ofText t).toText ≠ [] := by
  apply toText_ne_nil
  rintro _ member rfl
  exact absurd (List.mem_filter.mp member).2 (by decide)

end Files.Path

namespace Prisma.Loading

/-! ### Causes -/

/-- Why it is reported that a file holds no schema. -/
inductive Cause where
  | unsupported (suffix : Text)
  | missing
  | malformed
  | misshapen (fault : Malformation)

namespace Cause

/-- What there is to report, where nothing is known of the file. -/
def problem : Cause → Problem
  | unsupported suffix =>
    .schemaDocument ("Unsupported schema document type '" ++ suffix ++ "'") none none
  | missing => .schemaDocument "Schema document not found" none none
  | malformed => .schemaDocument "Error parsing schema document: <yaml>" none none
  | misshapen fault => .schemaDocument fault.message none (some fault.node)

/-- The suggestions that take the place of those for any document. -/
def suggestions : Cause → List Text
  | unsupported _ => ["Use one of: .json, .yaml, .yml"]
  | missing | malformed | misshapen _ => []

/-- The report of a cause, where nothing is known of the file. -/
def original (cause : Cause) : Report := cause.problem.report ∅ cause.suggestions

/-- Where in a document the cause is, if it is there. -/
def place : Cause → List (Text × Text)
  | misshapen fault => [("node", fault.node)]
  | unsupported _ | missing | malformed => []

end Cause

/-- A finding at a path gives a cause to report: the first thing that is wrong with the suffix, the
file, its text and the document in it. -/
inductive Arises (stack : Stack) (path : Files.Path) : Files.Finding → Cause → Prop where
  | unsupported {finding : Files.Finding} : path.suffix.lowerAscii ∉ suffixes →
      Arises stack path finding (.unsupported path.suffix)
  | missing : path.suffix.lowerAscii ∈ suffixes → Arises stack path .noFile .missing
  | malformed {content : List UInt8} : path.suffix.lowerAscii ∈ suffixes →
      Yaml.readContent stack content = .error .malformed →
      Arises stack path (.file content) .malformed
  | misshapen {content : List UInt8} {document : Document} {fault : Malformation} :
      path.suffix.lowerAscii ∈ suffixes → Yaml.readContent stack content = .ok document →
      (readSchema stack document).outcome = .error (.malformed fault) →
      Arises stack path (.file content) (.misshapen fault)

variable {path : Files.Path} {finding : Files.Finding} {cause : Cause}
  {stack : Stack}

/-- Where a cause has a place, it is one in a node of some kind. -/
theorem entries_original (arises : Arises stack path finding cause) :
    cause.original.context.entries = cause.place := by
  cases arises with
  | unsupported => rfl
  | missing => rfl
  | malformed => rfl
  | @misshapen _ document fault _ _ fails =>
      rw [outcome_readSchema] at fails
      have known : Reading.IsNodeKind fault.node :=
        Reading.namesNode_ofDocument stack document fault fails
      obtain ⟨p, rest, same⟩ := List.exists_cons_of_ne_nil known.ne_nil
      simp only [Cause.original, Cause.problem, Problem.report, Problem.entries, same, Cause.place]
      rfl

/-- The report about a file: the one of the cause, with the path in its context. -/
def reportAt (path : Files.Path) (cause : Cause) : Report :=
  { cause.original with context := cause.original.context.insertNew "path" path.toText }

theorem entries_reportAt (arises : Arises stack path finding cause) :
    (reportAt path cause).context.entries = cause.place ++ [(("path" : Text), path.toText)] := by
  have own := entries_original arises
  have fresh : ("path" : Text) ∉ cause.original.context.keys := by
    rw [Table.keys, own]
    cases cause with
    | misshapen fault =>
        have different : ("path" : Text) ≠ "node" := by decide
        exact fun known => different (List.mem_singleton.mp known)
    | _ => exact List.not_mem_nil
  have new : ¬ cause.original.context.contains "path" = true :=
    fun known => fresh (Table.contains_iff_mem_keys.mp known)
  dsimp only [reportAt, Table.insertNew]
  rw [if_neg new, Table.entries_insert_of_fresh fresh, own]

/-- A report that is made with the path at hand has it where one made without it gets it. -/
theorem report_eq (written : path.toText ≠ []) (message : Text) (suggestions : List Text) :
    report path message suggestions
      = withPath path (.ofProblem (.schemaDocument message none none) ∅ suggestions) := by
  obtain ⟨p, rest, same⟩ := List.exists_cons_of_ne_nil written
  simp only [report, withPath, Failure.ofProblem, Problem.report, Problem.entries, same]
  rfl

/-- Of a fault, the reading of the document alone reports the same without the path. -/
theorem ofReading_malformed (fault : Malformation) : Failure.ofReading (.malformed fault)
    = .reported "SchemaLoadError" (Cause.misshapen fault).original := rfl

theorem passes_of_known (known : path.suffix.lowerAscii ∈ suffixes) :
    ¬ (!suffixes.contains path.suffix.lowerAscii) = true := by
  simpa using known

/-- A cause that arises is reported, with the path. -/
theorem outcome_load_of_arises (written : path.toText ≠ [])
    (arises : Arises stack path finding cause) :
    (load stack path finding).outcome
      = .error (.reported "SchemaLoadError" (reportAt path cause)) := by
  cases arises with
  | unsupported unknown =>
      have outside : (!suffixes.contains path.suffix.lowerAscii) = true := by
        simpa using unknown
      unfold load
      rw [if_pos outside]
      exact congrArg Except.error (report_eq written _ _)
  | missing known =>
      unfold load
      rw [if_neg (passes_of_known known)]
      exact congrArg Except.error (report_eq written _ _)
  | malformed known fails =>
      rw [outcome_load (List.contains_iff_mem.mpr known), Yaml.readFile, fails]
      exact congrArg Except.error (report_eq written _ _)
  | @misshapen _ document fault known meant fails =>
      rw [outcome_readSchema] at fails
      rw [outcome_load (List.contains_iff_mem.mpr known), Yaml.readFile, meant]
      change outcomeAt stack path document = _
      rw [outcomeAt, fails, Except.mapError, ofReading_malformed]
      rfl

/-- What is reported has a cause. -/
theorem exists_arises {name : Text} {report : Report}
    (failed : (load stack path finding).outcome = .error (.reported name report)) :
    ∃ cause, Arises stack path finding cause := by
  by_cases known : path.suffix.lowerAscii ∈ suffixes
  case neg => exact ⟨_, .unsupported known⟩
  cases finding with
  | noFile => exact ⟨_, .missing known⟩
  | refused refusal =>
      unfold load at failed
      rw [if_neg (passes_of_known known)] at failed
      cases failed
  | file content =>
      rw [outcome_load (List.contains_iff_mem.mpr known), Yaml.readFile] at failed
      cases meant : Yaml.readContent stack content with
      | error fault =>
          rw [meant] at failed
          cases fault with
          | malformed => exact ⟨_, .malformed known meant⟩
          | _ => cases failed
      | ok document =>
          rw [meant] at failed
          change outcomeAt stack path document = _ at failed
          rw [outcomeAt, ← outcome_readSchema] at failed
          cases made : (readSchema stack document).outcome with
          | ok schema =>
              rw [made] at failed
              cases failed
          | error reason =>
              cases reason with
              | malformed fault => exact ⟨_, .misshapen known meant made⟩
              | _ =>
                  rw [made] at failed
                  cases failed

/-- It is reported that there is no schema in a file exactly if there is a cause to. The report has
the message, the code and the suggestions of the cause, and its context is what the cause knows of
the place in the document, if it is there, followed by the path that was given. -/
theorem reported_iff_arises (stack : Stack) (t : Text) (finding : Files.Finding) (name : Text)
    (report : Report) :
    (load stack (.ofText t) finding).outcome = .error (.reported name report) ↔
      ∃ cause, Arises stack (.ofText t) finding cause ∧ name = "SchemaLoadError" ∧
        report.message = cause.original.message ∧ report.code = cause.original.code ∧
        report.suggestions = cause.original.suggestions ∧
        cause.original.context.entries = cause.place ∧
        report.context.entries
          = cause.place ++ [(("path" : Text), (Files.Path.ofText t).toText)] := by
  have written := Files.Path.toText_ofText_ne_nil t
  constructor
  · intro failed
    obtain ⟨cause, arises⟩ := exists_arises failed
    have same := failed.symm.trans (outcome_load_of_arises written arises)
    cases same
    exact ⟨cause, arises, rfl, rfl, rfl, rfl, entries_original arises, entries_reportAt arises⟩
  · rintro ⟨cause, arises, rfl, message, code, suggestions, own, context⟩
    rw [outcome_load_of_arises written arises]
    have contexts : report.context = (reportAt (.ofText t) cause).context :=
      Table.eq_of_entries (context.trans (entries_reportAt arises).symm)
    obtain ⟨_, _, _, _⟩ := report
    subst message code suggestions contexts
    rfl

end Prisma.Loading

end PrismaEsdl
