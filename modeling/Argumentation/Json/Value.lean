import Argumentation.Number.Binary64

/-!
# JSON values

The values of the JSON format.  An object is a list of named fields in the order
in which they are written.
-/

namespace Argumentation

namespace Json

/-- A number of a JSON text: an integer of 64 bits or a floating-point number. -/
inductive Number where
  /-- An integer. -/
  | integer (n : Int)
  /-- A floating-point number. -/
  | float (x : Binary64)
  deriving DecidableEq

/-- The nearest floating-point number. -/
def Number.toBinary64 : Number → Binary64
  | .integer n => .ofInt n
  | .float x => x

end Json

/-- A JSON value. -/
inductive Json where
  /-- The value that stands for nothing. -/
  | null
  /-- A truth value. -/
  | bool (b : Bool)
  /-- A number. -/
  | number (n : Json.Number)
  /-- A text. -/
  | text (s : String)
  /-- A list. -/
  | array (items : List Json)
  /-- Named fields. -/
  | object (fields : List (String × Json))

namespace Json

/-- A natural number. -/
def natural (n : Nat) : Json := .number (.integer n)

/-- A floating-point number.  JSON has no name for an infinity or for what is no
number, so null stands in. -/
def float (x : Binary64) : Json := if x.isFinite then .number (.float x) else .null

/-- A value that may be absent. -/
def option {α : Type} (write : α → Json) : Option α → Json
  | some a => write a
  | none => .null

/-- A field put into its place among fields in the order of their names.  A field
of the same name is replaced. -/
def putField (name : String) (v : Json) : List (String × Json) → List (String × Json)
  | [] => [(name, v)]
  | f :: fs =>
    if name = f.1 then (name, v) :: fs
    else if name < f.1 then (name, v) :: f :: fs
    else f :: putField name v fs

/-- Fields in the order of their names.  Of two fields of one name the last is
kept. -/
def sortFields (fields : List (String × Json)) : List (String × Json) :=
  fields.foldl (fun fs f => putField f.1 f.2 fs) []

end Json

end Argumentation
