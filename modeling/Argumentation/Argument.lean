import Argumentation.Number.Binary64
import Argumentation.Text.Blank
import Argumentation.Text.Lowercase

/-!
# Arguments

Arguments are named by texts in which case and surrounding blanks make no
difference.  An identifier is kept in its canonical form.

An argument of a graph has an identifier, and may have a weight and a
description.  It has a place on the canvas, and while results are shown a
strength and an appearance.
-/

namespace Argumentation

/-! ## Identifiers -/

/-- The canonical form of an identifier: without surrounding blanks and in lower
case. -/
def canonicalId (s : String) : String := Text.lowercase (Text.trim s)

/-- Whether a text is its own canonical form. -/
def IsCanonical (s : String) : Prop := canonicalId s = s

instance (s : String) : Decidable (IsCanonical s) := inferInstanceAs (Decidable (_ = _))

example : canonicalId "  ArgA " = "arga" := by decide +kernel

/-! ## Arguments -/

/-- A place on the canvas. -/
structure Position where
  /-- The distance to the right. -/
  x : Binary64 := 0
  /-- The distance downwards. -/
  y : Binary64 := 0
  deriving DecidableEq

/-- How an argument looks. -/
inductive Appearance where
  /-- No result is shown. -/
  | plain
  /-- The argument is accepted. -/
  | accepted
  /-- The argument is rejected. -/
  | rejected
  /-- The argument is neither accepted nor rejected. -/
  | undecided
  /-- The place of the strength of the argument on the colour scale. -/
  | strength (bucket : Nat)
  deriving DecidableEq

/-- An argument. -/
structure Argument where
  /-- The identifier. -/
  id : String
  /-- The weight. -/
  weight : Option Binary64 := none
  /-- The description. -/
  description : Option String := none
  /-- The place on the canvas. -/
  position : Position := {}
  /-- The strength that is shown. -/
  strength : Option Binary64 := none
  /-- The appearance that is shown. -/
  appearance : Appearance := .plain
  deriving DecidableEq

/-- The argument without any result. -/
def Argument.clearResults (a : Argument) : Argument :=
  { a with strength := none, appearance := .plain }

/-! ## The default grid -/

/-- The arguments that are placed on the default grid stand in rows of five. -/
def gridColumns : Nat := 5

/-- The distance of two neighbours on the default grid. -/
def gridStep : Binary64 := 120

/-- The place of an argument on the default grid. -/
def gridPosition (slot : Nat) : Position :=
  ⟨Binary64.ofNat (slot % gridColumns) * gridStep, Binary64.ofNat (slot / gridColumns) * gridStep⟩

example : gridPosition 6 = ⟨120, 120⟩ := by decide +kernel

end Argumentation
