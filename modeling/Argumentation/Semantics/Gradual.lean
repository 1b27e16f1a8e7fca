import Argumentation.Argument
import Argumentation.Error
import Argumentation.Limits

/-!
# Gradual semantics

A gradual semantics gives every argument a strength.  The user picks the semantics,
how the strengths of attackers and supporters are put together, and two parameters
between zero and one.
-/

namespace Argumentation

/-- A gradual semantics of the service. -/
inductive GradualSemantics where
  /-- The semantics `drl`. -/
  | drl
  /-- The semantics `ddr`. -/
  | ddr
  /-- The semantics `eul`. -/
  | eul
  /-- The semantics `dfq`. -/
  | dfq
  /-- The semantics `mlp`. -/
  | mlp
  /-- The semantics `qen`. -/
  | qen
  deriving DecidableEq

namespace GradualSemantics

/-- All semantics. -/
def all : List GradualSemantics := [drl, ddr, eul, dfq, mlp, qen]

/-- The name of a semantics. -/
def name : GradualSemantics → String
  | drl => "drl"
  | ddr => "ddr"
  | eul => "eul"
  | dfq => "dfq"
  | mlp => "mlp"
  | qen => "qen"

/-- The semantics of exactly this name. -/
def ofName? (s : String) : Option GradualSemantics := all.find? (·.name = s)

/-- The semantics of a name that may have blanks around it and capital letters. -/
def ofText (s : String) : Except Error GradualSemantics :=
  match ofName? (canonicalId s) with
  | some a => .ok a
  | none => .error (.invalidRequest ("unknown gradual semantics '" ++ s ++ "'"))

/-- Whether the parameter gamma makes a difference. -/
def usesGamma : GradualSemantics → Bool
  | drl | ddr => true
  | _ => false

/-- Whether the aggregation makes a difference. -/
def usesAggregation : GradualSemantics → Bool
  | eul | dfq | mlp => false
  | _ => true

@[simp] theorem ofName?_name (a : GradualSemantics) : ofName? a.name = some a := by
  cases a <;> decide

end GradualSemantics

/-- How the strengths of attackers and supporters are put together. -/
inductive Aggregation where
  /-- The aggregation `sum`. -/
  | sum
  /-- The aggregation `product`. -/
  | product
  /-- The aggregation `deltamax`. -/
  | deltaMax
  /-- The aggregation `deltasum`. -/
  | deltaSum
  deriving DecidableEq

namespace Aggregation

/-- All aggregations. -/
def all : List Aggregation := [sum, product, deltaMax, deltaSum]

/-- The name of an aggregation. -/
def name : Aggregation → String
  | sum => "sum"
  | product => "product"
  | deltaMax => "deltamax"
  | deltaSum => "deltasum"

/-- The aggregation of exactly this name. -/
def ofName? (s : String) : Option Aggregation := all.find? (·.name = s)

/-- The aggregation of a name that may have blanks around it and capital letters. -/
def ofText (s : String) : Except Error Aggregation :=
  match ofName? (canonicalId s) with
  | some a => .ok a
  | none => .error (.invalidRequest ("unknown aggregation '" ++ s ++ "'"))

@[simp] theorem ofName?_name (a : Aggregation) : ofName? a.name = some a := by
  cases a <;> decide

end Aggregation

/-- The settings of a gradual computation. -/
structure GradualParams where
  /-- The semantics. -/
  semantics : GradualSemantics := .drl
  /-- The aggregation. -/
  aggregation : Aggregation := .sum
  /-- The first parameter, which only some semantics use. -/
  gamma : Binary64 := 1
  /-- The second parameter. -/
  epsilon : Binary64 := 1 / 100
  deriving DecidableEq

namespace GradualParams

/-- Checks one of the two parameters. -/
def checkParameter (name : String) (x : Binary64) : Except Error Unit :=
  if unitRange.contains x then .ok ()
  else .error (.invalidRequest (name ++ " must be a number between 0 and 1, got " ++ x.toText))

/-- Checks the parameters. -/
def validate (p : GradualParams) : Except Error Unit := do
  checkParameter "gamma" p.gamma
  checkParameter "epsilon" p.epsilon

/-- Equality with the parameters compared as numbers. -/
def numEq (p q : GradualParams) : Bool :=
  p.semantics == q.semantics && p.aggregation == q.aggregation && p.gamma.numEq q.gamma &&
    p.epsilon.numEq q.epsilon

end GradualParams

end Argumentation
