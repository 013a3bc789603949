import PrismaEsdl.Files.Writing
import PrismaEsdl.Prisma.Reading
import PrismaEsdl.Report
import PrismaEsdl.Yaml.Cursor

/-!
Failures: why a run ends without a result. A problem is reported and a refusal of the system is
told; any other failure is not expected, and ends a run without a message.
-/

namespace PrismaEsdl

inductive Failure where
  /-- A problem of some name, with its report. -/
  | reported (name : Text) (report : Report)
  /-- The system refuses to do something with a path. -/
  | refused (refusal : Files.Refusal) (path : Files.Path)
  /-- A path that cannot be given to the system. -/
  | invalidPath
  /-- The bytes of a file are no text. -/
  | undecodable
  /-- A text that has no bytes. -/
  | unencodable
  /-- A file in which something has no value, though nothing is found that is not well-formed. -/
  | meaningless (fault : Yaml.Fault)
  /-- A value that goes beyond what can be read or shown. -/
  | excessive (excess : Excess)
  /-- A value of a kind that cannot be used where it stands in a document. -/
  | misread (error : Prisma.ReadingError)

namespace Failure

/-- The failure that a problem is, with a context and suggestions that the reporter gives. -/
def ofProblem (problem : Problem) (context : Table Text Text) (suggestions : List Text) : Failure :=
  .reported problem.name (problem.report context suggestions)

def ofPlacement (error : Conversion.PlacementError) : Failure :=
  ofProblem (.unplaceable error) ∅ []

def ofObstacle : Conversion.Obstacle → Failure
  | .misplaced error => ofPlacement error
  | .excessive excess => .excessive excess

def ofReading : Prisma.ReadingError → Failure
  | .malformed fault =>
    ofProblem (.schemaDocument fault.message none (some fault.node)) ∅ []
  | .excessive excess => .excessive excess
  | error => .misread error

def ofWriting : Files.WritingError → Failure
  | .refused refusal path => .refused refusal path
  | .invalidPath => .invalidPath
  | .unencodable => .unencodable

/-- What is told about a failure; nothing is told about one that is not expected. -/
def message? : Failure → Option Text
  | reported name report => some (name ++ ": " ++ report.toText)
  | refused refusal path => some ("I/O Error: " ++ refusal.message path)
  | invalidPath | undecodable | unencodable | meaningless _ | excessive _ | misread _ => none

end Failure

end PrismaEsdl
