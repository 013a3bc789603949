import PrismaEsdl.Failure
import PrismaEsdl.Yaml.Meaning

/-!
Documents in files.
-/

namespace PrismaEsdl.Yaml

/-- The document in a file. -/
def readContent (stack : Stack) (content : List UInt8) : Except Fault Document :=
  read stack.nodes (.ofBytes content)

/-- The failure that a fault in a file is; what makes of a malformed one is up to the reader. -/
def failureOf (malformed : Failure) : Fault → Failure
  | .malformed => malformed
  | .undecodable => .undecodable
  | fault => .meaningless fault

/-- The document in a file, or the failure to read it. -/
def readFile (stack : Stack) (malformed : Failure) (content : List UInt8) :
    Except Failure Document :=
  (readContent stack content).mapError (failureOf malformed)

end PrismaEsdl.Yaml
