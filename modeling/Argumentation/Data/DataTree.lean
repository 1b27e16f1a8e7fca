import Argumentation.Number.Binary64

/-!
# Records read from trees of data

Project files, configuration files and service replies are trees of named fields,
lists and single values.  `DataTree` names what a reader of records asks of such a
tree, so a record that occurs in several file formats is read by one definition.

A record is given by its named fields or by the row of its values in the order of
the fields.  A reader says which fields there are and how many a row must have at
least.
-/

namespace Argumentation

/-- Trees of data that records are read from. -/
class DataTree (δ : Type) where
  /-- The values of the named fields of a record, each `none` if it is absent.  A
  field that occurs twice is an error, and so is a row that is shorter than the
  given count.  Other fields are passed over. -/
  record? (least : Nat) (names : List String) : δ → Option (List (Option δ))
  /-- The values of a list. -/
  items? : δ → Option (List δ)
  /-- A text. -/
  text? : δ → Option String
  /-- A natural number below `2 ^ 64`. -/
  natural? : δ → Option Nat
  /-- A number. -/
  number? : δ → Option Binary64
  /-- The name of a choice and what it carries. -/
  choice? : δ → Option (String × Option δ)
  /-- Whether the value that a choice carries says nothing. -/
  isEmpty : δ → Bool
  /-- Whether the value stands for an absent one. -/
  isAbsent : δ → Bool

/-! ## Fields -/

/-- The value of a field that has to be there. -/
def required {δ α : Type} (read : δ → Option α) : Option δ → Option α
  | some d => read d
  | none => none

/-- The value of a field that may be left out or stand for an absent value. -/
def optional {δ α : Type} [DataTree δ] (read : δ → Option α) : Option δ → Option (Option α)
  | some d => if DataTree.isAbsent d then some none else (read d).map some
  | none => some none

/-- The value of a field that is taken from elsewhere when it is left out. -/
def orElse {δ α : Type} (standard : α) (read : δ → Option α) : Option δ → Option α
  | some d => read d
  | none => some standard

/-- The values of a list, each read in the same way. -/
def listOf {δ α : Type} [DataTree δ] (read : δ → Option α) (d : δ) : Option (List α) := do
  let items ← DataTree.items? d
  items.mapM read

/-- A choice that carries nothing, by its name. -/
def plainChoice {δ α : Type} [DataTree δ] (ofName? : String → Option α) (d : δ) : Option α := do
  let (name, carried) ← DataTree.choice? d
  let a ← ofName? name
  match carried with
  | none => some a
  | some e => if DataTree.isEmpty e then some a else none

end Argumentation
