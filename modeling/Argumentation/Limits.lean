import Argumentation.Number.Binary64

/-!
# Limits

The bounds that identifiers, descriptions and weights are held to.  The weights
of arguments, the nodes of the graph, and of relations, its edges, have ranges of
their own.
-/

namespace Argumentation

/-- A range of weights, both ends included. -/
structure WeightRange where
  /-- The least weight. -/
  min : Binary64 := 0
  /-- The greatest weight. -/
  max : Binary64 := 1
  deriving DecidableEq

namespace WeightRange

/-- Whether a number lies in the range. -/
def contains (r : WeightRange) (x : Binary64) : Bool := r.min.le x && x.le r.max

/-- Equality of the bounds as numbers. -/
def numEq (r s : WeightRange) : Bool := r.min.numEq s.min && r.max.numEq s.max

end WeightRange

/-- The range of strengths and parameters. -/
def unitRange : WeightRange := {}

/-- The limits of a description. -/
structure Limits where
  /-- The greatest number of characters of an identifier. -/
  maxIdentifierLength : Nat := 50
  /-- The range of the weights of arguments. -/
  nodeWeight : WeightRange := {}
  /-- The range of the weights of relations. -/
  edgeWeight : WeightRange := {}
  /-- The greatest number of characters of the description of an argument. -/
  maxDescriptionLength : Nat := 500
  deriving DecidableEq

/-- What carries a weight. -/
inductive WeightKind where
  /-- An argument. -/
  | node
  /-- A relation. -/
  | edge
  deriving DecidableEq

/-- The range of the weights of a kind. -/
def Limits.rangeOf (l : Limits) : WeightKind → WeightRange
  | .node => l.nodeWeight
  | .edge => l.edgeWeight

/-- Equality of limits with the weights compared as numbers. -/
def Limits.numEq (l m : Limits) : Bool :=
  l.maxIdentifierLength == m.maxIdentifierLength && l.nodeWeight.numEq m.nodeWeight &&
    l.edgeWeight.numEq m.edgeWeight && l.maxDescriptionLength == m.maxDescriptionLength

end Argumentation
