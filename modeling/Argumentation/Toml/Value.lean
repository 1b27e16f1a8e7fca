import Argumentation.Data.DataTree

/-!
# TOML values

The values of the TOML format.  A table remembers how it came to be, because that
decides whether further fields may be added to it: a table in braces is closed, a
table with a header has its fields below the header, and the tables in between
are implied by a longer header or by a dotted key.
-/

namespace Argumentation

/-- How a table came to be. -/
inductive Toml.Origin where
  /-- It stands in braces. -/
  | braces
  /-- It has a header of its own. -/
  | header
  /-- A header of a table inside it implies it. -/
  | implied
  /-- A dotted key implies it. -/
  | dotted
  deriving DecidableEq

/-- A TOML value. -/
inductive Toml where
  /-- A text. -/
  | text (s : String)
  /-- An integer. -/
  | integer (n : Int)
  /-- A floating-point number. -/
  | float (x : Binary64)
  /-- A truth value. -/
  | bool (b : Bool)
  /-- A date, a time of day or both, as it is written. -/
  | time (s : String)
  /-- A list. -/
  | array (items : List Toml)
  /-- Named fields. -/
  | table (origin : Toml.Origin) (fields : List (String × Toml))
  /-- The tables of repeated headers. -/
  | tables (rows : List (List (String × Toml)))

namespace Toml

/-- The value of the field of a name. -/
def fieldOf (fields : List (String × Toml)) (name : String) : Option Toml :=
  (fields.find? (·.1 = name)).map (·.2)

/-- The values of the named fields of a table or of a row.  A row may go on beyond
the fields, and a time has none of them. -/
def record? (least : Nat) (names : List String) : Toml → Option (List (Option Toml))
  | .table _ fields => some (names.map (fieldOf fields))
  | .array items => row? items
  | .tables rows => row? (rows.map (.table .header))
  | .time _ => some (names.map fun _ => none)
  | _ => none
where
  /-- The first values of a row. -/
  row? (items : List Toml) : Option (List (Option Toml)) :=
    if least ≤ items.length then some ((List.range names.length).map fun i => items[i]?)
    else none

instance : DataTree Toml where
  record? := record?
  items?
    | .array items => some items
    | .tables rows => some (rows.map (.table .header))
    | _ => none
  text?
    | .text s => some s
    | _ => none
  natural?
    | .integer n => if 0 ≤ n then some n.toNat else none
    | _ => none
  number?
    | .integer n => some (.ofInt n)
    | .float x => some x
    | _ => none
  choice?
    | .text s => some (s, none)
    | .table _ [(name, v)] => some (name, some v)
    | _ => none
  isEmpty
    | .table _ [] => true
    | .array [] => true
    | _ => false
  isAbsent _ := false

end Toml

end Argumentation
