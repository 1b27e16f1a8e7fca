import Argumentation.Relation
import Argumentation.Validation

/-!
# Diagnostics

What is wrong with a description, line by line.  Lines are counted from one, and
blank lines are not counted.
-/

namespace Argumentation

/-- A fault of a line. -/
inductive Fault where
  /-- The line is no statement. -/
  | notAStatement (text : String)
  /-- A field is not valid. -/
  | invalid (cause : ValidationError)
  /-- The source of a relation is not declared. -/
  | undefinedSource (kind : RelationKind) (id : String)
  /-- The target of a relation is not declared. -/
  | undefinedTarget (kind : RelationKind) (id : String)
  deriving DecidableEq

/-- The message for the user. -/
def Fault.message : Fault → String
  | .notAStatement text => "syntax error in \"" ++ text ++ "\""
  | .invalid cause => cause.message
  | .undefinedSource kind id =>
    kind.keyword ++ " error - source arg \"" ++ id ++ "\" is not defined"
  | .undefinedTarget kind id =>
    kind.keyword ++ " error - target arg \"" ++ id ++ "\" is not defined"

/-- A fault and the line that has it. -/
structure Diagnostic where
  /-- The number of the line. -/
  line : Nat
  /-- The fault. -/
  fault : Fault
  deriving DecidableEq

namespace Diagnostic

/-- The message for the user. -/
def message (d : Diagnostic) : String := "Line " ++ Nat.repr d.line ++ ": " ++ d.fault.message

/-- Whether the line is no statement. -/
def isNotAStatement (d : Diagnostic) : Bool :=
  match d.fault with
  | .notAStatement _ => true
  | _ => false

/-- The header of a list of diagnostics. -/
def header : String := "Argumentation framework errors found:"

/-- The message for a list of diagnostics. -/
def messages (ds : List Diagnostic) : String :=
  String.intercalate "\n" (header :: ds.map message)

end Diagnostic

end Argumentation
