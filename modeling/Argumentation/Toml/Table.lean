import Argumentation.Toml.Value

/-!
# Building tables

A document is built field by field.  `descend` walks a path of names from a table
to a table inside it, makes the tables that are missing, and changes the table at
the end.  On the way it keeps the rules of the format: a path never leads through
a value, a dotted key never leads through a table with a header, and of repeated
tables it takes the last one.
-/

namespace Argumentation.Toml

/-- The named fields of a table. -/
abbrev Fields := List (String × Toml)

/-- Fields in which the value of a name is set by what it was. -/
def alter (name : String) (change : Option Toml → Option Toml) : Fields → Option Fields
  | [] => (change none).map fun v => [(name, v)]
  | f :: fs =>
    if f.1 = name then (change (some f.2)).map fun v => (name, v) :: fs
    else (alter name change fs).map (f :: ·)

/-- The value of a name on a path, changed inside the table that it is.  A table that
is missing is made. -/
def enter (dotted : Bool) (change : Origin → Fields → Option (Origin × Fields)) :
    Option Toml → Option Toml
  | none => do
    let (origin, fields) ← change (if dotted then .dotted else .implied) []
    some (.table origin fields)
  | some (.table origin fields) =>
    if origin = .braces ∧ !dotted then none
    else if dotted ∧ origin ≠ .dotted ∧ origin ≠ .implied then none
    else do
      let (origin, fields) ← change origin fields
      some (.table origin fields)
  | some (.tables rows) =>
    match rows.getLast? with
    | none => none
    | some row => do
      let (_, row) ← change .header row
      some (.tables (rows.dropLast ++ [row]))
  | some _ => none

/-- Changes the table at the end of a path.  `dotted` says whether the path comes
from a dotted key. -/
def descend (dotted : Bool) (change : Origin → Fields → Option (Origin × Fields)) :
    List String → Origin → Fields → Option (Origin × Fields)
  | [], origin, fields => change origin fields
  | name :: path, origin, fields => do
    let fields ← alter name (enter dotted (descend dotted change path)) fields
    some (origin, fields)

/-- Adds a field under a dotted key to a table.  The field must be new.  A table
that a dotted key reaches must have come from dotted keys. -/
def addField (path : List String) (name : String) (v : Toml) :
    Origin → Fields → Option (Origin × Fields) :=
  descend true
    (fun origin fields =>
      if path ≠ [] ∧ origin ≠ .dotted then none
      else (alter name (fun old => if old.isSome then none else some v) fields).map (origin, ·))
    path

/-- Opens the table of a header.  A table that was only implied by headers gets the
header, any other must be new. -/
def openTable (path : List String) (name : String) : Fields → Option Fields := fun fields => do
  let (_, fields) ← descend false
    (fun origin fields => (alter name opened fields).map (origin, ·)) path .header fields
  some fields
where
  /-- The value that has got the header. -/
  opened : Option Toml → Option Toml
    | none => some (.table .header [])
    | some (.table .implied fields) => some (.table .header fields)
    | some _ => none

/-- Opens one more table of a repeated header. -/
def openRow (path : List String) (name : String) : Fields → Option Fields := fun fields => do
  let (_, fields) ← descend false
    (fun origin fields => (alter name opened fields).map (origin, ·)) path .header fields
  some fields
where
  /-- The tables with one more. -/
  opened : Option Toml → Option Toml
    | none => some (.tables [[]])
    | some (.tables rows) => some (.tables (rows ++ [[]]))
    | some _ => none

/-- Adds a field to the table of the current header.  The path of the header leads
to it through tables that are there. -/
def addFieldAt (header : List String) (path : List String) (name : String) (v : Toml) :
    Fields → Option Fields := fun fields => do
  let (_, fields) ← descend false (addField path name v) header .header fields
  some fields

end Argumentation.Toml
