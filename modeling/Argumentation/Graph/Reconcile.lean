import Argumentation.Graph.Basic

/-!
# Reconciling a graph with a framework

A graph is changed step by step until it says what a framework says, and no more
than that takes.  Arguments that stay keep their place and their description,
relations that stay keep their number.  New arguments are placed by a rule that
is asked once for each of them.

The steps come in four rows: arguments that are not declared any more go, then
relations that are not declared any more go, then arguments are added or get their
weight, then relations are.  At the end the counter goes on behind the greatest
number.

A framework in which a relation names an undeclared argument is refused before
anything is changed.  Should a later step be refused, the steps before it stay
done.
-/

namespace Argumentation

namespace Reconcile

/-- Places the new argument that comes after a number of others. -/
abbrev Placement := Nat → String → Position

/-- How far a reconciliation got. -/
structure Progress where
  /-- The graph so far. -/
  graph : Graph
  /-- The events so far. -/
  events : List Event := []
  /-- The arguments that were placed. -/
  placed : List String := []

/-- A step of a reconciliation. -/
inductive Step where
  /-- An argument goes. -/
  | removeArgument (id : String)
  /-- A relation goes. -/
  | removeRelation (id : RelationId)
  /-- An argument is added or gets its weight. -/
  | putArgument (id : String) (weight : Option Binary64)
  /-- A relation is added or gets its weight. -/
  | putRelation (key : RelationKey) (weight : Option Binary64)

/-- Takes a step. -/
def Step.run (place : Placement) (p : Progress) : Step → Except Error Progress
  | .removeArgument id => do
    let (graph, events) ← p.graph.removeArgument id
    .ok { p with graph, events := p.events ++ events }
  | .removeRelation id => do
    let (graph, event) ← p.graph.removeRelation id
    .ok { p with graph, events := p.events ++ [event] }
  | .putArgument id weight =>
    if p.graph.contains id then
      let (graph, event) := p.graph.setArgumentWeight id weight
      .ok { p with graph, events := p.events ++ event.toList }
    else do
      let position := place p.placed.length id
      let (graph, event) ← p.graph.insertArgument { id, weight, position }
      .ok { graph, events := p.events ++ [event], placed := p.placed ++ [id] }
  | .putRelation key weight =>
    match p.graph.findRelation? key with
    | some id =>
      let (graph, event) := p.graph.setRelationWeight id weight
      .ok { p with graph, events := p.events ++ event.toList }
    | none => do
      let (graph, id) ← p.graph.insertRelation key weight
      .ok { p with graph, events := p.events ++ [.relationAdded id] }

/-- Takes steps up to the first one that is refused. -/
def run (place : Placement) : Progress → List Step → Progress × Option Error
  | p, [] => (p, none)
  | p, s :: ss =>
    match s.run place p with
    | .ok p => run place p ss
    | .error e => (p, some e)

/-- Takes rows of steps, each made from the graph that the rows before it leave. -/
def runRows (place : Placement) : Progress → List (Graph → List Step) → Progress × Option Error
  | p, [] => (p, none)
  | p, row :: rows =>
    match run place p (row p.graph) with
    | (p, none) => runRows place p rows
    | (p, some e) => (p, some e)

/-! ## The rows of steps -/

/-- Arguments that are not declared go. -/
def dropArguments (f : Framework) (g : Graph) : List Step :=
  ((g.arguments.map (·.id)).filter (!f.containsArgument ·)).map .removeArgument

/-- Relations that are not declared go. -/
def dropRelations (f : Framework) (g : Graph) : List Step :=
  (g.relations.filter fun r => !f.containsRelation r.key).map fun r => .removeRelation r.id

/-- Declared arguments are added or get their weight. -/
def putArguments (f : Framework) (_ : Graph) : List Step :=
  f.arguments.map fun e => .putArgument e.1 e.2

/-- Declared relations are added or get their weight. -/
def putRelations (f : Framework) (_ : Graph) : List Step :=
  f.relations.map fun e => .putRelation e.1 e.2

/-- The rows in their order. -/
def rows (f : Framework) : List (Graph → List Step) :=
  [dropArguments f, dropRelations f, putArguments f, putRelations f]

/-- The first end of a relation that is not declared. -/
def undeclaredEnd? (f : Framework) : Option (RelationKey × String) :=
  f.relations.findSome? fun e =>
    if !f.containsArgument e.1.source then some (e.1, e.1.source)
    else if !f.containsArgument e.1.target then some (e.1, e.1.target)
    else none

/-- Why a framework is refused. -/
def refusal (key : RelationKey) (id : String) : Error :=
  .invariant ("relation " ++ key.toText ++ " references undeclared argument '" ++ id ++ "'")

end Reconcile

/-- The graph after a reconciliation and what came of it. -/
structure Reconciled where
  /-- The graph. -/
  graph : Graph
  /-- The new arguments that were placed. -/
  placed : List String
  /-- The events, or why the reconciliation stopped. -/
  outcome : Except Error (List Event)

/-- Changes a graph until it says what a framework says. -/
def Graph.reconcile (g : Graph) (f : Framework) (place : Reconcile.Placement) : Reconciled :=
  match Reconcile.undeclaredEnd? f with
  | some (key, id) => ⟨g, [], .error (Reconcile.refusal key id)⟩
  | none =>
    match Reconcile.runRows place { graph := g } (Reconcile.rows f) with
    | (p, none) => ⟨p.graph.reseed, p.placed, .ok p.events⟩
    | (p, some e) => ⟨p.graph, p.placed, .error e⟩

end Argumentation
