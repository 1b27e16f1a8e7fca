import Argumentation.Graph.Basic

/-!
# Structural violations

A graph is sound if every argument is found by its own canonical identifier, every
relation joins two arguments of the graph, no two relations say the same, and the
counter is beyond every number.  `violations` tells where that fails.
-/

namespace Argumentation.Graph

/-- What is wrong with the identifier of an argument. -/
def nodeViolations (n : Node) : List String :=
  if n.argument.id ≠ n.key then
    ["argument index '" ++ n.key ++ "' points at '" ++ n.argument.id ++ "'"]
  else if canonicalId n.argument.id ≠ n.argument.id then
    ["argument id '" ++ n.argument.id ++ "' is not canonical"]
  else []

/-- What is wrong with one end of a relation. -/
def endViolations (g : Graph) (r : Relation) (id : String) : List String :=
  if g.hasKey id then []
  else ["relation " ++ r.id.toText ++ " references missing argument '" ++ id ++ "'"]

/-- What is wrong with a relation behind other relations. -/
def relationViolations (g : Graph) (earlier : List RelationKey) (r : Relation) : List String :=
  endViolations g r r.source ++ endViolations g r r.target ++
    (if r.key ∈ earlier then ["duplicate relation " ++ r.key.toText] else []) ++
    if r.id.number < g.counter.next then []
    else
      ["relation " ++ r.id.toText ++ " is not below the id counter " ++
        Nat.repr g.counter.next.toNat]

/-- What is wrong with relations behind other relations. -/
def relationsViolations (g : Graph) : List RelationKey → List Relation → List String
  | _, [] => []
  | earlier, r :: rs =>
    relationViolations g earlier r ++ relationsViolations g (r.key :: earlier) rs

/-- All that is wrong with a graph, the arguments first and in the order of the
identifiers they are found by. -/
def violations (g : Graph) : List String :=
  (g.nodes.mergeSort fun m n => decide (m.key ≤ n.key)).flatMap nodeViolations ++
    relationsViolations g [] g.relations

end Argumentation.Graph
