import Argumentation.Error
import Argumentation.Record.Graph

/-!
# Records of errors

How errors are written to JSON and read from trees of data, and the names of the
causes.
-/

namespace Argumentation

open DataTree

/-! ## Validation errors -/

namespace ValidationError

/-- The name of a cause. -/
def name : ValidationError → String
  | .emptyIdentifier => "EmptyIdentifier"
  | .identifierTooLong _ => "IdentifierTooLong"
  | .invalidIdentifierChars => "InvalidIdentifierChars"
  | .notANumber => "NotANumber"
  | .weightOutOfRange .. => "WeightOutOfRange"
  | .textTooLong _ => "TextTooLong"
  | .invalidTextChars => "InvalidTextChars"

/-- The causes that have no details, by their names. -/
def ofName? : String → Option ValidationError
  | "EmptyIdentifier" => some .emptyIdentifier
  | "InvalidIdentifierChars" => some .invalidIdentifierChars
  | "NotANumber" => some .notANumber
  | "InvalidTextChars" => some .invalidTextChars
  | _ => none

/-- Reads the greatest length of a text. -/
def readMax? {δ : Type} [DataTree δ] (d : δ) : Option Nat := do
  match ← record? 1 ["max"] d with
  | [max] => required natural? max
  | _ => none

/-- Reads a validation error. -/
def read? {δ : Type} [DataTree δ] (d : δ) : Option ValidationError := do
  match ← choice? d with
  | ("IdentifierTooLong", some e) => (readMax? e).map .identifierTooLong
  | ("TextTooLong", some e) => (readMax? e).map .textTooLong
  | ("WeightOutOfRange", some e) => do
    match ← record? 2 ["min", "max"] e with
    | [min, max] => some (.weightOutOfRange (← required number? min) (← required number? max))
    | _ => none
  | _ => plainChoice ofName? d

/-- Writes a validation error. -/
def toJson (e : ValidationError) : Json :=
  match e with
  | .identifierTooLong max => .object [(e.name, .object [("max", .natural max)])]
  | .textTooLong max => .object [(e.name, .object [("max", .natural max)])]
  | .weightOutOfRange min max =>
    .object [(e.name, .object [("min", .float min), ("max", .float max)])]
  | _ => .text e.name

end ValidationError

/-! ## Diagnostics -/

namespace Fault

/-- The name of a fault.  That of an invalid field is the name of the cause. -/
def name : Fault → String
  | .notAStatement _ => "Syntax"
  | .invalid cause => cause.name
  | .undefinedSource .. => "UndefinedSource"
  | .undefinedTarget .. => "UndefinedTarget"

/-- Reads the kind of a relation and the identifier of an end. -/
def readEnd? {δ : Type} [DataTree δ] (d : δ) : Option (RelationKind × String) := do
  match ← record? 2 ["kind", "id"] d with
  | [kind, id] => some (← required RelationKind.read? kind, ← required text? id)
  | _ => none

/-- Reads a fault. -/
def read? {δ : Type} [DataTree δ] (d : δ) : Option Fault := do
  match ← choice? d with
  | ("Syntax", some e) => do
    match ← record? 1 ["text"] e with
    | [text] => (required text? text).map .notAStatement
    | _ => none
  | ("Invalid", some e) => (ValidationError.read? e).map .invalid
  | ("UndefinedSource", some e) => (readEnd? e).map fun (kind, id) => .undefinedSource kind id
  | ("UndefinedTarget", some e) => (readEnd? e).map fun (kind, id) => .undefinedTarget kind id
  | _ => none

/-- Writes a fault. -/
def toJson : Fault → Json
  | .notAStatement text => .object [("Syntax", .object [("text", .text text)])]
  | .invalid cause => .object [("Invalid", cause.toJson)]
  | .undefinedSource kind id =>
    .object [("UndefinedSource", .object [("kind", kind.toJson), ("id", .text id)])]
  | .undefinedTarget kind id =>
    .object [("UndefinedTarget", .object [("kind", kind.toJson), ("id", .text id)])]

end Fault

namespace Diagnostic

/-- Reads a diagnostic. -/
def read? {δ : Type} [DataTree δ] (d : δ) : Option Diagnostic := do
  match ← record? 2 ["line", "kind"] d with
  | [line, fault] => some ⟨← required natural? line, ← required Fault.read? fault⟩
  | _ => none

/-- Writes a diagnostic. -/
def toJson (d : Diagnostic) : Json :=
  .object [("line", .natural d.line), ("kind", d.fault.toJson)]

end Diagnostic

/-! ## Errors -/

namespace Error

/-- The name of a cause. -/
def name : Error → String
  | .description _ => "Description"
  | .validation _ => "Validation"
  | .duplicateArgument _ => "DuplicateArgument"
  | .duplicateRelation _ => "DuplicateRelation"
  | .notFound _ => "NotFound"
  | .invariant _ => "Invariant"
  | .invalidRequest _ => "InvalidRequest"
  | .noResults _ => "NoResults"
  | .unsupportedFormat _ => "UnsupportedFormat"
  | .service _ => "Service"
  | .serialization _ => "Serialization"
  | .file _ => "Io"

/-- The text that an error carries, if it carries one. -/
def detail? : Error → Option String
  | .description _ => none
  | .validation _ => none
  | .duplicateArgument s => some s
  | .duplicateRelation s => some s
  | .notFound s => some s
  | .invariant s => some s
  | .invalidRequest s => some s
  | .noResults s => some s
  | .unsupportedFormat s => some s
  | .service s => some s
  | .serialization s => some s
  | .file s => some s

/-- The error of a name and a text that it carries. -/
def ofDetail? (s : String) : String → Option Error
  | "DuplicateArgument" => some (.duplicateArgument s)
  | "DuplicateRelation" => some (.duplicateRelation s)
  | "NotFound" => some (.notFound s)
  | "Invariant" => some (.invariant s)
  | "InvalidRequest" => some (.invalidRequest s)
  | "NoResults" => some (.noResults s)
  | "UnsupportedFormat" => some (.unsupportedFormat s)
  | "Service" => some (.service s)
  | "Serialization" => some (.serialization s)
  | "Io" => some (.file s)
  | _ => none

/-- Reads an error. -/
def read? {δ : Type} [DataTree δ] (d : δ) : Option Error := do
  match ← choice? d with
  | ("Description", some e) => (listOf Diagnostic.read? e).map .description
  | ("Validation", some e) => (ValidationError.read? e).map .validation
  | (name, some e) => (text? e).bind (ofDetail? · name)
  | (_, none) => none

/-- Writes what an error carries. -/
def carriedJson : Error → Json
  | .description ds => .array (ds.map Diagnostic.toJson)
  | .validation cause => cause.toJson
  | e => .text (e.detail?.getD "")

/-- Writes an error. -/
def toJson (e : Error) : Json := .object [(e.name, e.carriedJson)]

end Error

end Argumentation
