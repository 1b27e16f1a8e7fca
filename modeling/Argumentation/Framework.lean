import Argumentation.Data.Assoc
import Argumentation.Relation

/-!
# Frameworks

A framework is what a description says: arguments, attacks and supports with
their weights, each in the order in which it was first declared.  To declare
something again changes its weight and nothing else.

Two frameworks have the same structure if they say the same, in whatever order.
-/

namespace Argumentation

/-- The source and the target of a relation. -/
abbrev Ends := String × String

/-- What a description says. -/
structure Framework where
  /-- The arguments with their weights. -/
  arguments : Assoc String (Option Binary64) := []
  /-- The attacks with their weights. -/
  attacks : Assoc Ends (Option Binary64) := []
  /-- The supports with their weights. -/
  supports : Assoc Ends (Option Binary64) := []
  deriving DecidableEq

namespace Framework

/-! ## Declarations -/

/-- Declares an argument. -/
def declareArgument (f : Framework) (id : String) (weight : Option Binary64) : Framework :=
  { f with arguments := f.arguments.put id weight }

/-- Declares a relation. -/
def declareRelation (f : Framework) (key : RelationKey) (weight : Option Binary64) : Framework :=
  match key.kind with
  | .attack => { f with attacks := f.attacks.put (key.source, key.target) weight }
  | .support => { f with supports := f.supports.put (key.source, key.target) weight }

/-! ## Views -/

/-- The relations of a kind. -/
def relationsOf (f : Framework) : RelationKind → Assoc Ends (Option Binary64)
  | .attack => f.attacks
  | .support => f.supports

/-- Entries of a kind under their keys. -/
def withKind (kind : RelationKind) (l : Assoc Ends (Option Binary64)) :
    Assoc RelationKey (Option Binary64) :=
  l.map fun e => (⟨kind, e.1.1, e.1.2⟩, e.2)

/-- The relations, attacks first. -/
def relations (f : Framework) : Assoc RelationKey (Option Binary64) :=
  withKind .attack f.attacks ++ withKind .support f.supports

/-- Whether an argument is declared. -/
def containsArgument (f : Framework) (id : String) : Bool := f.arguments.contains id

/-- The weight with which an argument is declared. -/
def argument? (f : Framework) (id : String) : Option (Option Binary64) := f.arguments.get? id

/-- Whether a relation is declared. -/
def containsRelation (f : Framework) (key : RelationKey) : Bool :=
  (f.relationsOf key.kind).contains (key.source, key.target)

/-- Whether no argument is declared. -/
def isEmpty (f : Framework) : Bool := f.arguments.isEmpty

/-! ## Comparison -/

/-- Whether two frameworks say the same, in whatever order. -/
def sameStructure (f g : Framework) : Bool :=
  f.arguments.sameEntries Binary64.optionEq g.arguments &&
    f.relations.sameEntries Binary64.optionEq g.relations

/-- Whether two lists hold equal keys with equal weights in the same order. -/
def sameList {κ : Type} [DecidableEq κ] : Assoc κ (Option Binary64) →
    Assoc κ (Option Binary64) → Bool
  | [], [] => true
  | e :: l, d :: m => e.1 = d.1 && Binary64.optionEq e.2 d.2 && sameList l m
  | _, _ => false

/-- Whether two frameworks say the same in the same order, with the weights
compared as numbers. -/
def numEq (f g : Framework) : Bool :=
  sameList f.arguments g.arguments && sameList f.attacks g.attacks &&
    sameList f.supports g.supports

end Framework

end Argumentation
