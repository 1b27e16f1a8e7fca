import Argumentation.Number.Layout
import Argumentation.Record.Error
import Argumentation.Text.Printable

/-!
# Listings of errors

A listing shows how an error is built: the name of the cause and, behind it, all
that the error carries.  Texts stand between quotes, so that every character can be
told apart.
-/

namespace Argumentation

namespace Listing

/-- A name and what it carries. -/
def call (name carried : String) : String := name ++ "(" ++ carried ++ ")"

/-- A name and its fields. -/
def record (name : String) (fields : List (String × String)) : String :=
  name ++ " \x7b " ++ String.intercalate ", " (fields.map fun f => f.1 ++ ": " ++ f.2) ++ " \x7d"

/-- A list of values. -/
def list (values : List String) : String := "[" ++ String.intercalate ", " values ++ "]"

/-- A value that may be absent. -/
def option : Option String → String
  | none => "None"
  | some value => call "Some" value

end Listing

open Listing

/-- The listing of a number. -/
def Binary64.listing (x : Binary64) : String := NumberLayout.listing.write x

/-- The listing of a kind of relation. -/
def RelationKind.listing : RelationKind → String
  | .attack => "Attack"
  | .support => "Support"

/-- The listing of a validation error. -/
def ValidationError.listing (e : ValidationError) : String :=
  match e with
  | .identifierTooLong max => record e.name [("max", Nat.repr max)]
  | .textTooLong max => record e.name [("max", Nat.repr max)]
  | .weightOutOfRange min max => record e.name [("min", min.listing), ("max", max.listing)]
  | _ => e.name

/-- The listing of a fault. -/
def Fault.listing : Fault → String
  | .notAStatement text => record "Syntax" [("text", Text.quoted text)]
  | .invalid cause => call "Invalid" cause.listing
  | .undefinedSource kind id =>
    record "UndefinedSource" [("kind", kind.listing), ("id", Text.quoted id)]
  | .undefinedTarget kind id =>
    record "UndefinedTarget" [("kind", kind.listing), ("id", Text.quoted id)]

/-- The listing of a diagnostic. -/
def Diagnostic.listing (d : Diagnostic) : String :=
  record "DescriptionError" [("line", Nat.repr d.line), ("kind", d.fault.listing)]

/-- The listing of an error. -/
def Error.listing (e : Error) : String :=
  call e.name (match e with
    | .description ds => call "DescriptionErrors" (list (ds.map Diagnostic.listing))
    | .validation cause => cause.listing
    | e => Text.quoted (e.detail?.getD ""))

example : (Error.notFound "a\"b").listing = "NotFound(\"a\\\"b\")" := by decide +kernel
example : (Fault.undefinedSource .attack "a").listing =
    "UndefinedSource \x7b kind: Attack, id: \"a\" \x7d" := by decide +kernel

end Argumentation
