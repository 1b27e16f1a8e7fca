import Argumentation.Json.Reader
import Argumentation.Semantics.Request

/-!
# Replies of the semantics service

Every reply has results or an error.  The results are whatever the service sends,
so they are checked for the shape that the request asks for before they are used.
-/

namespace Argumentation

/-- Why a JSON text cannot be used. -/
def malformedJson : Error := .serialization "JSON (de)serialization error: malformed document"

/-- A reply of the service. -/
structure Response where
  /-- The results. -/
  results : Option Json := none
  /-- The error. -/
  error : Option String := none

namespace Response

/-- The reply of a document. -/
def ofDocument? (d : Json.Document) : Option Response := do
  match ← DataTree.record? 0 ["results", "error"] d with
  | [results, error] => do
    let results ← optional (Json.Document.value? (Json.depthLimit - 1)) results
    let error ← optional DataTree.text? error
    some ⟨results, error⟩
  | _ => none

/-- The reply of a text. -/
def ofText (body : String) : Except Error Response :=
  match (Json.parse? body).bind ofDocument? with
  | some r => .ok r
  | none => .error malformedJson

/-- The reply as it is sent. -/
def toJson (r : Response) : Json :=
  .object ((r.results.map ("results", ·)).toList ++
    (r.error.map fun e => ("error", Json.text e)).toList)

/-- The error of results that have not the shape that was asked for. -/
def unexpectedFormat : Error := .service "unexpected data format"

/-- The list of the results. -/
def items (r : Response) : Except Error (List Json) :=
  match r.error, r.results with
  | some message, _ => .error (.service message)
  | none, some (.array items) => .ok items
  | none, _ => .error unexpectedFormat

/-- A result that has to be a text. -/
def textItem : Json → Except Error String
  | .text s => .ok s
  | _ => .error unexpectedFormat

/-- A result that has to be a list of texts, with blanks put between them. -/
def wordsItem : Json → Except Error String
  | .array items => do
    let words ← items.mapM textItem
    .ok (String.intercalate " " words)
  | _ => .error unexpectedFormat

/-- The results as rows of text: labelings or lines of strengths. -/
def rows (r : Response) : Except Error (List String) := do
  let items ← r.items
  items.mapM textItem

/-- The results as labelings that are cut into words. -/
def filteredRows (r : Response) : Except Error (List String) := do
  let items ← r.items
  items.mapM wordsItem

end Response

/-- A semantics service: how each kind of request is answered. -/
structure Service where
  /-- Computes labelings. -/
  extensions : ExtensionRequest → Except Error Response
  /-- Computes strengths. -/
  strengths : GradualRequest → Except Error Response
  /-- Filters labelings. -/
  filter : FilterRequest → Except Error Response

/-- The service that gives every request the same answer. -/
def Service.constant (answer : Except Error Response) : Service :=
  ⟨fun _ => answer, fun _ => answer, fun _ => answer⟩

end Argumentation
