import Argumentation.Limits
import Argumentation.Number.Layout
import Argumentation.Text.Blank

/-!
# Validation of fields

The checks that the description notation and the editing of the graph share.
`ValidationError` has one cause for each way in which a field can be wrong.
-/

namespace Argumentation

/-- Why a field is not valid. -/
inductive ValidationError where
  /-- An identifier is blank. -/
  | emptyIdentifier
  /-- An identifier is too long. -/
  | identifierTooLong (max : Nat)
  /-- An identifier has a character that is neither a letter nor a digit. -/
  | invalidIdentifierChars
  /-- A weight is no number. -/
  | notANumber
  /-- A weight is outside of its range. -/
  | weightOutOfRange (min max : Binary64)
  /-- A description is too long. -/
  | textTooLong (max : Nat)
  /-- A description has a character that is not allowed. -/
  | invalidTextChars
  deriving DecidableEq

/-- The message for the user. -/
def ValidationError.message : ValidationError → String
  | .emptyIdentifier => "Argument Name cannot be empty."
  | .identifierTooLong max =>
    "Argument Name is too long (max " ++ Nat.repr max ++ " characters)."
  | .invalidIdentifierChars => "Argument Name can only contain letters and numbers."
  | .notANumber => "Weight must be a number"
  | .weightOutOfRange min max =>
    "Weight must be a number between " ++ min.toText ++ " and " ++ max.toText ++ "."
  | .textTooLong max => "Description is too long (max " ++ Nat.repr max ++ ")."
  | .invalidTextChars =>
    "Description contains invalid characters: only letters, numbers, spaces and common " ++
      "punctuation are allowed."

/-! ## Identifiers -/

/-- Whether a character is an ASCII letter or digit. -/
def isAlphanumeric (c : Char) : Bool :=
  isDigit c || ('a' ≤ c && c ≤ 'z') || ('A' ≤ c && c ≤ 'Z')

/-- Checks an identifier.  Surrounding blanks do not count. -/
def validateIdentifier (limits : Limits) (raw : String) : Except ValidationError Unit :=
  let id := (Text.trim raw).toList
  if id = [] then .error .emptyIdentifier
  else if limits.maxIdentifierLength < id.length then
    .error (.identifierTooLong limits.maxIdentifierLength)
  else if !id.all isAlphanumeric then .error .invalidIdentifierChars
  else .ok ()

/-! ## Weights -/

/-- Checks a weight that may be absent. -/
def checkWeight (limits : Limits) (kind : WeightKind) :
    Option Binary64 → Except ValidationError Unit
  | none => .ok ()
  | some w =>
    let range := limits.rangeOf kind
    if w.isNan then .error .notANumber
    else if !range.contains w then .error (.weightOutOfRange range.min range.max)
    else .ok ()

/-- Reads and checks the text of a weight that may be absent. -/
def validateWeight (limits : Limits) (kind : WeightKind) :
    Option String → Except ValidationError (Option Binary64)
  | none => .ok none
  | some raw =>
    match Binary64.ofText? (Text.trim raw) with
    | none => .error .notANumber
    | some w =>
      match checkWeight limits kind (some w) with
      | .ok () => .ok (some w)
      | .error e => .error e

/-! ## Descriptions of arguments -/

/-- The punctuation that a description may have. -/
def descriptionPunctuation : List Char :=
  ['.', ',', ';', ':', '!', '?', '(', ')', '-', '_', '\'', '"']

/-- Whether a character may stand in a description. -/
def isDescriptionChar (c : Char) : Bool :=
  isAlphanumeric c || Text.isBlank c || descriptionPunctuation.contains c

/-- Checks the description of an argument. -/
def validateText (limits : Limits) (text : String) : Except ValidationError Unit :=
  if limits.maxDescriptionLength < text.toList.length then
    .error (.textTooLong limits.maxDescriptionLength)
  else if !text.toList.all isDescriptionChar then .error .invalidTextChars
  else .ok ()

end Argumentation
