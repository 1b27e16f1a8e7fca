import Argumentation.Graph.Basic

/-!
# Classification

Which optional features a graph uses decides the category of its framework, and
the category decides which family of semantics is offered.

| support | argument weight | relation weight | category | family          |
|---------|-----------------|-----------------|----------|-----------------|
| no      | no              | no              | AF       | extension-based |
| yes     | no              | no              | BAF      | extension-based |
| no      | no              | yes             | WAF      | gradual         |
| yes     | no              | yes             | WBAF     | gradual         |
| any     | yes             | no              | QBAF     | gradual         |
| any     | yes             | yes             | WQBAF    | gradual         |
-/

namespace Argumentation

/-- The optional features that a framework uses. -/
structure Features where
  /-- There is a support. -/
  supportEdges : Bool := false
  /-- An argument has a weight. -/
  nodeWeights : Bool := false
  /-- A relation has a weight. -/
  edgeWeights : Bool := false
  deriving DecidableEq

/-- The category of a framework. -/
inductive Category where
  /-- Arguments and attacks. -/
  | af
  /-- With supports. -/
  | baf
  /-- With weights of relations. -/
  | waf
  /-- With supports and weights of relations. -/
  | wbaf
  /-- With weights of arguments. -/
  | qbaf
  /-- With weights of arguments and of relations. -/
  | wqbaf
  deriving DecidableEq

/-- A family of semantics. -/
inductive SemanticsFamily where
  /-- Arguments are accepted or not. -/
  | extensionBased
  /-- Arguments have strengths. -/
  | gradual
  deriving DecidableEq

/-- The name of a family. -/
def SemanticsFamily.name : SemanticsFamily → String
  | .extensionBased => "extension-based"
  | .gradual => "gradual"

namespace Category

/-- The category of a set of features. -/
def ofFeatures (f : Features) : Category :=
  match f.nodeWeights, f.edgeWeights, f.supportEdges with
  | true, true, _ => .wqbaf
  | true, false, _ => .qbaf
  | false, true, true => .wbaf
  | false, true, false => .waf
  | false, false, true => .baf
  | false, false, false => .af

/-- The family of semantics that is offered. -/
def family : Category → SemanticsFamily
  | .af => .extensionBased
  | .baf => .extensionBased
  | _ => .gradual

/-- The name of a category. -/
def name : Category → String
  | .af => "AF"
  | .baf => "BAF"
  | .waf => "WAF"
  | .wbaf => "WBAF"
  | .qbaf => "QBAF"
  | .wqbaf => "WQBAF"

end Category

namespace Features

/-- The names of the features that are used. -/
def names (f : Features) : List String :=
  (if f.supportEdges then ["SupportEdges"] else []) ++
    (if f.nodeWeights then ["NodeWeights"] else []) ++
    if f.edgeWeights then ["EdgeWeights"] else []

/-- The category. -/
def category (f : Features) : Category := .ofFeatures f

/-- The family of semantics that is offered. -/
def family (f : Features) : SemanticsFamily := f.category.family

/-- The classification in words. -/
def toText (f : Features) : String := f.category.name ++ " (" ++ f.family.name ++ ")"

end Features

/-- The features that a graph uses.  A weight of zero is a weight. -/
def Graph.features (g : Graph) : Features where
  supportEdges := g.relations.any (·.kind = .support)
  nodeWeights := g.arguments.any (·.weight.isSome)
  edgeWeights := g.relations.any (·.weight.isSome)

/-- The features that a framework uses. -/
def Framework.features (f : Framework) : Features where
  supportEdges := !f.supports.isEmpty
  nodeWeights := f.arguments.any (·.2.isSome)
  edgeWeights := f.relations.any (·.2.isSome)

end Argumentation
