import Argumentation.Diagnostic

/-!
# Errors

Why an operation of the library fails, and the message for the user.
-/

namespace Argumentation

/-- Why an operation fails. -/
inductive Error where
  /-- A description has faults. -/
  | description (diagnostics : List Diagnostic)
  /-- A field is not valid. -/
  | validation (cause : ValidationError)
  /-- An argument of this identifier is there already. -/
  | duplicateArgument (id : String)
  /-- A relation that says the same is there already. -/
  | duplicateRelation (key : String)
  /-- An item is not there. -/
  | notFound (item : String)
  /-- A framework was given that no description yields. -/
  | invariant (detail : String)
  /-- A request makes no sense. -/
  | invalidRequest (detail : String)
  /-- There is no result. -/
  | noResults (detail : String)
  /-- The name of a file does not tell a known format. -/
  | unsupportedFormat (path : String)
  /-- The semantics service reports an error. -/
  | service (detail : String)
  /-- A text is not in its format. -/
  | serialization (detail : String)
  /-- A file cannot be used. -/
  | file (detail : String)
  deriving DecidableEq

/-- The message for the user. -/
def Error.message : Error → String
  | .description ds => Diagnostic.messages ds
  | .validation cause => cause.message
  | .duplicateArgument id => "There is already an Argument with this Name: " ++ id
  | .duplicateRelation key =>
    "There is already a Relationship of this type between the two Arguments: " ++ key
  | .notFound item => "Item Not Found: " ++ item
  | .invariant detail => "Graph invariant violated: " ++ detail
  | .invalidRequest detail => "Invalid request: " ++ detail
  | .noResults detail => detail
  | .unsupportedFormat path =>
    "Unsupported file format: " ++ path ++ ". Please select .apx or .json."
  | .service detail => "Semantics service error: " ++ detail
  | .serialization detail => "(De)Serialization error: " ++ detail
  | .file detail => "File System error: " ++ detail

end Argumentation
