import Argumentation.Number.Binary64
import Argumentation.Number.Decimal

/-!
# Relations

A relation is an attack or a support from one argument to another.  What it says
is its key; what it is called is its number, written `rel_1`, `rel_2` and so on.
The numbers come from a counter that lives with the graph.
-/

namespace Argumentation

/-! ## Kinds and keys -/

/-- The kind of a relation. -/
inductive RelationKind where
  /-- The source speaks against the target. -/
  | attack
  /-- The source speaks for the target. -/
  | support
  deriving DecidableEq

namespace RelationKind

/-- The word of the description notation. -/
def keyword : RelationKind → String
  | .attack => "att"
  | .support => "support"

/-- The name in files. -/
def name : RelationKind → String
  | .attack => "attack"
  | .support => "support"

/-- The kind of a name. -/
def ofName? (s : String) : Option RelationKind :=
  [attack, support].find? (·.name = s)

/-- The other kind. -/
def opposite : RelationKind → RelationKind
  | .attack => .support
  | .support => .attack

@[simp] theorem opposite_opposite (k : RelationKind) : k.opposite.opposite = k := by
  cases k <;> rfl

theorem opposite_ne (k : RelationKind) : k.opposite ≠ k := by cases k <;> decide

@[simp] theorem ofName?_name (k : RelationKind) : ofName? k.name = some k := by
  cases k <;> decide

end RelationKind

/-- What a relation says.  No two relations of a graph say the same. -/
structure RelationKey where
  /-- Attack or support. -/
  kind : RelationKind
  /-- The argument it starts from. -/
  source : String
  /-- The argument it leads to. -/
  target : String
  deriving DecidableEq

/-- The key in the form of the description notation. -/
def RelationKey.toText (k : RelationKey) : String :=
  k.kind.keyword ++ "(" ++ k.source ++ "," ++ k.target ++ ")"

/-- The key of the relation the other way round. -/
def RelationKey.reverse (k : RelationKey) : RelationKey := ⟨k.kind, k.target, k.source⟩

/-! ## Numbers of relations -/

/-- The number that a relation is called by. -/
structure RelationId where
  /-- The number. -/
  number : UInt64
  deriving DecidableEq

namespace RelationId

/-- What stands in front of the number. -/
def mark : String := "rel_"

/-- The written form of a relation number. -/
def toText (id : RelationId) : String := mark ++ Nat.repr id.number.toNat

/-- The relation number of a written form. -/
def ofText? (s : String) : Option RelationId :=
  let digits := s.toList.drop mark.length
  if mark.toList.isPrefixOf s.toList ∧ digits ≠ [] ∧ digits.all isDigit ∧
      digitsValue digits < UInt64.size then
    some ⟨UInt64.ofNat (digitsValue digits)⟩
  else none

example : (ofText? "rel_007").map toText = some "rel_7" := by decide +kernel
example : ofText? "rel_" = none ∧ ofText? "rel_-3" = none ∧ ofText? "7" = none := by decide +kernel

end RelationId

/-! ## The counter -/

/-- The source of relation numbers.  It counts in 64 bits. -/
structure RelationCounter where
  /-- The number of the next relation. -/
  next : UInt64 := 1
  deriving DecidableEq

namespace RelationCounter

/-- The next number and the counter after it. -/
def generate (c : RelationCounter) : RelationId × RelationCounter := (⟨c.next⟩, ⟨c.next + 1⟩)

/-- The greatest of some numbers, and zero if there is none. -/
def greatest (ids : List RelationId) : UInt64 :=
  ids.foldl (fun m id => if m < id.number then id.number else m) 0

/-- The counter that goes on behind the greatest of some numbers. -/
def reseed (ids : List RelationId) : RelationCounter := ⟨greatest ids + 1⟩

end RelationCounter

/-! ## Relations of a graph -/

/-- A relation with its number and its weight, if it has one. -/
structure Relation where
  /-- The number it is called by. -/
  id : RelationId
  /-- The argument it starts from. -/
  source : String
  /-- The argument it leads to. -/
  target : String
  /-- Attack or support. -/
  kind : RelationKind
  /-- The weight. -/
  weight : Option Binary64
  deriving DecidableEq

/-- What the relation says. -/
def Relation.key (r : Relation) : RelationKey := ⟨r.kind, r.source, r.target⟩

end Argumentation
