import PrismaEsdl.Table
import PrismaEsdl.Conversion.Error

/-!
Error reports.

A report has a message, a code, a context of named entries and suggestions. A problem brings its
own message, code, entries and suggestions; whoever reports it may add a context and may replace
the suggestions. The entries of the problem are put into the given context one after the other, so
an entry that was there keeps its place and takes the content of the problem.
-/

namespace PrismaEsdl

/-- An error report. -/
structure Report where
  message : Text
  code : Option Text
  context : Table Text Text
  suggestions : List Text
  deriving Inhabited

namespace Report

def codeLines (report : Report) : List Text :=
  match report.code with
  | some (p :: rest) => ["Error Code: " ++ (p :: rest : Text)]
  | _ => []

def contextLine (entry : Text × Text) : Text := "  " ++ entry.1 ++ ": " ++ entry.2

def suggestionLine (suggestion : Text) : Text := "  • " ++ suggestion

/-- Lines under a title, or nothing where there are no lines. -/
def section? (title : Text) (lines : List Text) : List Text :=
  if lines.isEmpty then [] else title :: lines

/-- The text of a report: message, code, context and suggestions, the empty ones left out. -/
def toText (report : Report) : Text :=
  Text.join "\n" <| report.message :: report.codeLines
    ++ section? "Context:" (report.context.entries.map contextLine)
    ++ section? "Suggestions:" (report.suggestions.map suggestionLine)

end Report

open Conversion (PlacementError)

/-- What a report is about. -/
inductive Problem where
  | general (message : Text) (code : Option Text)
  | configuration (message : Text) (file : Option Text)
  | schemaDocument (message : Text) (path node : Option Text)
  | conversion (message : Text) (model field : Option Text)
  | unplaceable (error : PlacementError)
  deriving Inhabited

namespace Problem

/-- The name of the kind of a problem. -/
def name : Problem → Text
  | general .. => "ESDLAutoGeneratorError"
  | configuration .. => "ConfigurationError"
  | schemaDocument .. => "SchemaLoadError"
  | conversion .. => "TranslationError"
  | unplaceable (.missingRelationTarget ..) => "MissingRelationTargetError"
  | unplaceable (.ambiguousBacklink ..) => "AmbiguousBacklinkError"
  | unplaceable (.compositeKey ..) => "UnsupportedCompositeKeyError"
  | unplaceable (.unknownScalar ..) => "UnknownScalarTypeError"
  | unplaceable (.callType ..) => "FunctionTypeUnsupportedError"

def message : Problem → Text
  | general message _ | configuration message _ | schemaDocument message _ _
  | conversion message _ _ => message
  | unplaceable (.missingRelationTarget model field target) =>
    "No target model '" ++ target ++ "' for relation field '" ++ model ++ "." ++ field ++ "'"
  | unplaceable (.ambiguousBacklink model field target _) =>
    "Multiple possible backlinks for '" ++ model ++ "." ++ field ++ "' on model '" ++ target ++ "'"
  | unplaceable (.compositeKey model field _) =>
    "Composite relation ids are not supported on '" ++ model ++ "." ++ field ++ "'"
  | unplaceable (.unknownScalar model field type) =>
    "Unknown type '" ++ type ++ "' on field '" ++ model ++ "." ++ field ++ "'"
  | unplaceable (.callType model field type) =>
    "Unknown function type '" ++ type ++ "' on field '" ++ model ++ "." ++ field ++ "'"

def code : Problem → Option Text
  | general _ code => code
  | configuration .. => some "CONFIG_ERROR"
  | schemaDocument .. => some "SCHEMA_LOAD_ERROR"
  | conversion .. => none
  | unplaceable (.missingRelationTarget ..) => some "MISSING_RELATION_TARGET"
  | unplaceable (.ambiguousBacklink ..) => some "AMBIGUOUS_BACKLINK"
  | unplaceable (.compositeKey ..) => some "UNSUPPORTED_COMPOSITE_KEY"
  | unplaceable (.unknownScalar ..) => some "UNKNOWN_SCALAR_TYPE"
  | unplaceable (.callType ..) => some "FUNCTION_TYPE_UNSUPPORTED"

/-- An entry, unless its content is missing or empty. -/
def entry? (key : Text) : Option Text → List (Text × Text)
  | some (p :: rest) => [(key, p :: rest)]
  | _ => []

/-- The entries of a field error that come before model and field. -/
def fieldDetails : PlacementError → List (Text × Text)
  | .missingRelationTarget _ _ target => [("target", target)]
  | .ambiguousBacklink _ _ target candidates =>
    [("target", target), ("candidates", Text.join ", " candidates)]
  | .compositeKey _ _ idFields => [("id_fields", Text.join ", " idFields)]
  | .unknownScalar _ _ type | .callType _ _ type => [("type", type)]

/-- The entries that a problem brings, in order. -/
def entries : Problem → List (Text × Text)
  | general .. => []
  | configuration _ file => entry? "config_file" file
  | schemaDocument _ path node => entry? "path" path ++ entry? "node" node
  | conversion _ model field => entry? "model" model ++ entry? "field" field
  | unplaceable error =>
    fieldDetails error ++ entry? "model" (some error.model) ++ entry? "field" (some error.field)

/-- The suggestions that a problem brings. -/
def suggestions : Problem → List Text
  | general .. | conversion .. => []
  | configuration .. => [
      "Check the configuration file syntax",
      "Verify all required fields are present",
      "Pass the input schema path with --input"]
  | schemaDocument .. => [
      "Check the file is a JSON or YAML dump of the parsed schema",
      "Verify the top-level node is \x7b'type': 'schema', 'list': [...]\x7d",
      "Re-export the schema tree with the prisma-ast parser"]
  | unplaceable (.missingRelationTarget ..) => [
      "Check the field type is spelled like the target model",
      "Declare the target model in the same schema"]
  | unplaceable (.ambiguousBacklink ..) => [
      "Keep the @relation attribute on only one side of each relation",
      "Split the relations so each inverse field is unambiguous"]
  | unplaceable (.compositeKey ..) => [
      "Reference a single id field in @relation(fields: [...])",
      "Introduce a surrogate id on the referenced model"]
  | unplaceable (.unknownScalar ..) => [
      "Use one of the built-in scalar types",
      "Declare the type as an enum or model if it is one"]
  | unplaceable (.callType ..) => [
      "Replace the function type with a named scalar type",
      "Remove the field before translating"]

/-- The problem with a code that the reporter gives. Only a problem in general takes it, any other
one has a code of its own. -/
def withCode (code : Option Text) : Problem → Problem
  | general message _ => general message code
  | problem => problem

/-- The report of a problem, with a context and suggestions that the reporter gives. -/
def report (problem : Problem) (context : Table Text Text) (suggestions : List Text) : Report where
  message := problem.message
  code := problem.code
  context := context.insertMany problem.entries
  suggestions := if suggestions.isEmpty then problem.suggestions else suggestions

end Problem

end PrismaEsdl
