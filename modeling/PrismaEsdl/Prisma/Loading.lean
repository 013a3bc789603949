import PrismaEsdl.Log.Run
import PrismaEsdl.Yaml.File

/-!
Loading a schema: finding the document of its syntax tree in a file and reading it. Whatever is
reported about a file names its path.
-/

namespace PrismaEsdl.Prisma

/-- Reads the document of a syntax tree and tells how many declarations it has. -/
def readSchema (stack : Stack) (document : Document) : Log.Run ReadingError Schema := do
  let schema ← .ofExcept (Schema.ofDocument stack document)
  .tell (.declarationsRead schema.declarations.length)
  return schema

namespace Loading

/-- The suffixes of the files that are read. -/
def suffixes : List Text := [".json", ".yaml", ".yml"]

/-- A report about a file. -/
def report (path : Files.Path) (message : Text) (suggestions : List Text) : Failure :=
  .ofProblem (.schemaDocument message (some path.toText) none) ∅ suggestions

def unsupported (path : Files.Path) : Failure :=
  report path ("Unsupported schema document type '" ++ path.suffix ++ "'")
    ["Use one of: " ++ Text.join ", " suffixes]

def notFound (path : Files.Path) : Failure := report path "Schema document not found" []

def malformed (path : Files.Path) : Failure :=
  report path "Error parsing schema document: <yaml>" []

/-- A failure with the path in the context of its report, unless a path is there. -/
def withPath (path : Files.Path) : Failure → Failure
  | .reported name report =>
    .reported name { report with context := report.context.insertNew "path" path.toText }
  | failure => failure

end Loading

open Loading in
/-- Loads the schema at a path where a finding was made. -/
def load (stack : Stack) (path : Files.Path) (finding : Files.Finding) :
    Log.Run Failure Schema := do
  if !suffixes.contains path.suffix.lowerAscii then .stop (unsupported path)
  match finding with
  | .refused refusal => .stop (.refused refusal path)
  | .noFile => .stop (notFound path)
  | .file content =>
    let document ← .ofExcept (Yaml.readFile stack (malformed path) content)
    .tell (.documentRead path.toText)
    (readSchema stack document).mapError fun error => withPath path (.ofReading error)

end PrismaEsdl.Prisma
