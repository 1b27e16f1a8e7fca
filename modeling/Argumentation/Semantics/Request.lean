import Argumentation.Json.Value
import Argumentation.Semantics.Gradual

/-!
# Requests to the semantics service

The library computes no semantics itself.  It sends the description to a service,
which answers with labelings or strengths.  A request is built only if there is
something to compute.
-/

namespace Argumentation

/-- A request for labelings. -/
structure ExtensionRequest where
  /-- The name of the semantics. -/
  semantics : String
  /-- The description. -/
  content : String
  deriving DecidableEq

/-- A request for strengths. -/
structure GradualRequest where
  /-- The description. -/
  content : String
  /-- The settings. -/
  params : GradualParams
  deriving DecidableEq

/-- A request for the labelings that meet constraints. -/
structure FilterRequest where
  /-- The words of each labeling. -/
  labelings : List (List String)
  /-- The constraints. -/
  constraints : List String
  deriving DecidableEq

/-- Refuses a blank description. -/
def checkContent (content : String) : Except Error Unit :=
  if Text.isBlankText content then
    .error (.invalidRequest "Argumentation framework is empty. Please define a BAF/QBAF first.")
  else .ok ()

namespace ExtensionRequest

/-- The request for the labelings of a description. -/
def make (semantics content : String) : Except Error ExtensionRequest := do
  checkContent content
  .ok ⟨semantics, content⟩

/-- The request as it is sent. -/
def toJson (r : ExtensionRequest) : Json :=
  .object [("semantics", .text r.semantics), ("content", .text r.content)]

end ExtensionRequest

namespace GradualRequest

/-- The request for the strengths of a description. -/
def make (content : String) (params : GradualParams) : Except Error GradualRequest := do
  checkContent content
  params.validate
  .ok ⟨content, params⟩

/-- The request as it is sent. -/
def toJson (r : GradualRequest) : Json :=
  .object [("content", .text r.content), ("sem", .text r.params.semantics.name),
    ("params", .text r.params.aggregation.name), ("gamma", .float r.params.gamma),
    ("epsilon", .float r.params.epsilon)]

end GradualRequest

namespace FilterRequest

/-- The lines of a text that are not blank, without surrounding blanks. -/
def constraintLines (text : String) : List String :=
  ((Text.lines text).map Text.trim).filter (· ≠ "")

/-- The request for the labelings that meet the constraints of a text. -/
def make (labelings : List String) (constraints : String) : Except Error FilterRequest :=
  if labelings = [] then
    .error (.invalidRequest "No labelings to filter. Please compute semantics first.")
  else if constraintLines constraints = [] then
    .error (.invalidRequest "Please enter at least one constraint (e.g., in(a)).")
  else .ok ⟨labelings.map Text.words, constraintLines constraints⟩

/-- The request as it is sent. -/
def toJson (r : FilterRequest) : Json :=
  .object [("labelings", .array (r.labelings.map fun ws => .array (ws.map .text))),
    ("constraints", .array (r.constraints.map .text))]

end FilterRequest

end Argumentation
