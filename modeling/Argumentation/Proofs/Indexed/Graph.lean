import Argumentation.Graph.Violation
import Argumentation.Proofs.Graph.Run
import Argumentation.Proofs.Indexed.Arena
import Std.Data.TreeMap.Lemmas
import Std.Data.TreeSet.Lemmas

/-!
# Indexed graphs

A graph can be kept in an arena.  Two indices lead from identifiers and from numbers of relations
to slots, and a list of slots tells the order in which the arguments came.  So an argument is
held in three places and a relation in two, and each change has to keep them in step.

Here are all changes of a graph for this form.  Some of them take several steps: an argument goes
after its relations, one after the other, and a new identifier is given by a second node to which
the relations are moved.  A change that stops half-way leaves what it has done: `Attempt` has the
graph along with the outcome.

A slot that an index leads to is taken.  Where it were vacant, the argument or relation counts
as missing.
-/

namespace Argumentation

open Arena

/-- A graph in an arena. -/
structure IndexedGraph (G : Type) [Arena Argument Relation G] where
  /-- The arguments and the relations. -/
  arena : G := empty
  /-- The slots of the arguments. -/
  index : Std.TreeMap String Nat := {}
  /-- The slots of the arguments in the order in which they came. -/
  order : List Nat := []
  /-- The slots of the relations. -/
  edges : Std.TreeMap UInt64 Nat := {}
  /-- The source of the numbers of relations. -/
  counter : RelationCounter := {}

/-- A change that may have stopped half-way. -/
structure Attempt (G : Type) [Arena Argument Relation G] (α : Type) where
  /-- The graph as it then is. -/
  graph : IndexedGraph G
  /-- What came of it. -/
  outcome : Except Error α

variable {G : Type} [Arena Argument Relation G]

/-- Goes on with another change, unless the first one has stopped. -/
def Attempt.andThen {α β : Type} (r : Attempt G α) (next : IndexedGraph G → α → Attempt G β) :
    Attempt G β :=
  match r with
  | ⟨x, .ok a⟩ => next x a
  | ⟨x, .error e⟩ => ⟨x, .error e⟩

/-- Changes the outcome. -/
def Attempt.map {α β : Type} (r : Attempt G α) (f : α → β) : Attempt G β :=
  ⟨r.graph, r.outcome.map f⟩

namespace IndexedGraph

/-! ## Views -/

/-- The argument of an identifier. -/
def argument? (x : IndexedGraph G) (id : String) : Option Argument :=
  x.index[canonicalId id]?.bind (node? x.arena)

/-- The arguments in the order in which they came. -/
def arguments (x : IndexedGraph G) : List Argument := x.order.filterMap (node? x.arena)

/-- The slot of a relation and what is in it. -/
def found? (x : IndexedGraph G) (id : RelationId) : Option (Nat × ArenaEdge Relation) :=
  x.edges[id.number]?.bind fun e => (edge? x.arena e).map (e, ·)

/-- The relation of a number. -/
def relation? (x : IndexedGraph G) (id : RelationId) : Option Relation :=
  (x.found? id).map (·.2.weight)

/-- The relations in the order of their numbers. -/
def relations (x : IndexedGraph G) : List Relation :=
  x.edges.toList.filterMap fun p => (edge? x.arena p.2).map (·.weight)

/-- The number of the relation that says this, among those that start from its source. -/
def findRelation? (x : IndexedGraph G) (key : RelationKey) : Option RelationId :=
  match x.index[key.source]?, x.index[key.target]? with
  | some s, some t =>
    (((outgoing x.arena s).filterMap (edge? x.arena)).find? fun d =>
      d.target = t ∧ d.weight.kind = key.kind).map (·.weight.id)
  | _, _ => none

/-- The numbers of the relations of an argument. -/
def incident (x : IndexedGraph G) (id : String) : List RelationId :=
  match x.index[canonicalId id]? with
  | none => []
  | some i =>
    let numbers := (outgoing x.arena i ++ incoming x.arena i).filterMap fun e =>
      (edge? x.arena e).map (·.weight.id.number)
    (Std.TreeSet.ofList numbers).toList.map (⟨·⟩)

/-! ## Arguments -/

/-- Puts an argument at the end. -/
def addArgument (x : IndexedGraph G) (a : Argument) : IndexedGraph G :=
  let added := addNode x.arena a
  { x with
    arena := added.2
    index := x.index.insert a.id added.1
    order := x.order ++ [added.1] }

/-- Takes an argument out of its slot. -/
def dropArgument (x : IndexedGraph G) (id : String) (i : Nat) : IndexedGraph G :=
  { x with
    arena := removeNode x.arena i
    index := x.index.erase id
    order := x.order.filter (· ≠ i) }

/-- Changes the argument of an identifier. -/
def modifyArgument (x : IndexedGraph G) (id : String) (f : Argument → Argument) :
    IndexedGraph G :=
  match x.index[canonicalId id]? with
  | none => x
  | some i => { x with arena := modifyNode x.arena i f }

/-- Changes every argument. -/
def mapArguments (x : IndexedGraph G) (f : Argument → Argument) : IndexedGraph G :=
  { x with arena := mapNodes x.arena f }

/-- Adds an argument at the end. -/
def insertArgument (x : IndexedGraph G) (a : Argument) : Attempt G Event :=
  let a := { a with id := canonicalId a.id }
  if a.id ∈ x.index then ⟨x, .error (.duplicateArgument a.id)⟩
  else ⟨x.addArgument a, .ok (.argumentAdded a.id)⟩

/-- Sets the weight of an argument.  There is no event if it does not change. -/
def setArgumentWeight (x : IndexedGraph G) (id : String) (weight : Option Binary64) :
    IndexedGraph G × Option Event :=
  match x.argument? id with
  | none => (x, none)
  | some a =>
    if Binary64.optionEq a.weight weight then (x, none)
    else (x.modifyArgument id fun a => { a with weight }, some (.argumentUpdated a.id))

/-! ## Relations -/

/-- Puts a relation between its ends. -/
def attach (x : IndexedGraph G) (r : Relation) : Attempt G Unit :=
  match x.index[r.source]?, x.index[r.target]? with
  | some s, some t =>
    let added := addEdge x.arena s t r
    ⟨{ x with arena := added.2, edges := x.edges.insert r.id.number added.1 }, .ok ()⟩
  | _, _ =>
    ⟨x, .error (.invariant ("relation " ++ r.id.toText ++ " endpoints " ++ r.source ++ " -> " ++
      r.target ++ " are not both present"))⟩

/-- Adds a relation under a fresh number. -/
def insertRelation (x : IndexedGraph G) (key : RelationKey) (weight : Option Binary64) :
    Attempt G RelationId :=
  let key : RelationKey := ⟨key.kind, canonicalId key.source, canonicalId key.target⟩
  if key.source ∉ x.index then ⟨x, .error (missingArgument key.source)⟩
  else if key.target ∉ x.index then ⟨x, .error (missingArgument key.target)⟩
  else if (x.findRelation? key).isSome then ⟨x, .error (.duplicateRelation key.toText)⟩
  else
    let (id, counter) := x.counter.generate
    (attach { x with counter } ⟨id, key.source, key.target, key.kind, weight⟩).map fun _ => id

/-- Takes a relation out of its slot. -/
def dropRelation (x : IndexedGraph G) (id : RelationId) (e : Nat) : IndexedGraph G :=
  { x with arena := removeEdge x.arena e, edges := x.edges.erase id.number }

/-- Removes a relation. -/
def removeRelation (x : IndexedGraph G) (id : RelationId) : Attempt G Event :=
  match x.edges[id.number]? with
  | none => ⟨x, .error (missingRelation id)⟩
  | some e => ⟨x.dropRelation id e, .ok (.relationRemoved id)⟩

/-- Changes what is in the slot of a relation. -/
def modifyRelation (x : IndexedGraph G) (e : Nat) (f : Relation → Relation) : IndexedGraph G :=
  { x with arena := modifyEdge x.arena e f }

/-- Sets the weight of a relation.  There is no event if it does not change. -/
def setRelationWeight (x : IndexedGraph G) (id : RelationId) (weight : Option Binary64) :
    IndexedGraph G × Option Event :=
  match x.found? id with
  | none => (x, none)
  | some (e, d) =>
    if Binary64.optionEq d.weight.weight weight then (x, none)
    else (x.modifyRelation e fun r => { r with weight }, some (.relationUpdated id))

/-- Sets the kind of a relation.  There is no event if it does not change. -/
def setRelationKind (x : IndexedGraph G) (id : RelationId) (kind : RelationKind) :
    Attempt G (Option Event) :=
  match x.found? id with
  | none => ⟨x, .error (missingRelation id)⟩
  | some (e, d) =>
    let key : RelationKey := ⟨kind, d.weight.source, d.weight.target⟩
    if d.weight.kind = kind then ⟨x, .ok none⟩
    else if (x.findRelation? key).isSome then ⟨x, .error (.duplicateRelation key.toText)⟩
    else ⟨x.modifyRelation e fun r => { r with kind }, .ok (some (.relationUpdated id))⟩

/-- Takes a relation out of its slot and puts it back changed. -/
def reattach (x : IndexedGraph G) (e : Nat) (r : Relation) : Attempt G Unit :=
  attach { x with arena := removeEdge x.arena e } r

/-- Turns a relation round. -/
def reverseRelation (x : IndexedGraph G) (id : RelationId) : Attempt G Event :=
  match x.found? id with
  | none => ⟨x, .error (missingRelation id)⟩
  | some (e, d) =>
    let key := d.weight.key.reverse
    let turned : Attempt G Event :=
      (x.reattach e { d.weight with source := d.weight.target, target := d.weight.source }).map
        fun _ => .relationMoved id
    match x.findRelation? key with
    | none => turned
    | some other => if other = id then turned else ⟨x, .error (.duplicateRelation key.toText)⟩

/-! ## Arguments with their relations -/

/-- Removes relations one after the other. -/
def removeRelations (x : IndexedGraph G) : List RelationId → Attempt G (List Event)
  | [] => ⟨x, .ok []⟩
  | id :: ids =>
    (x.removeRelation id).andThen fun x event =>
      (x.removeRelations ids).map (event :: ·)

/-- Removes an argument after its relations. -/
def removeArgument (x : IndexedGraph G) (id : String) : Attempt G (List Event) :=
  let key := canonicalId id
  match x.index[key]? with
  | none => ⟨x, .error (missingArgument key)⟩
  | some i =>
    (x.removeRelations (x.incident key)).andThen fun x events =>
      ⟨x.dropArgument key i, .ok (events ++ [.argumentRemoved key])⟩

/-- Moves a relation from one argument to another. -/
def moveRelation (x : IndexedGraph G) (old new : String) (id : RelationId) :
    Attempt G (List Event) :=
  match x.found? id with
  | none => ⟨x, .ok []⟩
  | some (e, d) =>
    (x.reattach e (Graph.renameEnds old new d.weight)).map fun _ => [.relationMoved id]

/-- Moves relations one after the other. -/
def moveRelations (x : IndexedGraph G) (old new : String) :
    List RelationId → Attempt G (List Event)
  | [] => ⟨x, .ok []⟩
  | id :: ids =>
    (x.moveRelation old new id).andThen fun x events =>
      (x.moveRelations old new ids).map (events ++ ·)

/-- Puts an argument in the place of another one: it comes, the relations are moved to it, and the
other one goes. -/
def replaceArgument (x : IndexedGraph G) (old : String) (i : Nat) (a : Argument) :
    Attempt G (List Event) :=
  let x := x.addArgument a
  (x.moveRelations old a.id (x.incident old)).andThen fun x events =>
    ⟨x.dropArgument old i, .ok (.argumentRenamed old a.id :: events)⟩

/-- Gives an argument another identifier. -/
def renameArgument (x : IndexedGraph G) (id newId : String) : Attempt G (List Event) :=
  let old := canonicalId id
  let new := canonicalId newId
  if old = new then ⟨x, .ok []⟩
  else if new ∈ x.index then ⟨x, .error (.duplicateArgument new)⟩
  else
    match x.index[old]? with
    | none => ⟨x, .error (missingArgument old)⟩
    | some i =>
      match node? x.arena i with
      | none => ⟨x, .error (missingArgument old)⟩
      | some a => x.replaceArgument old i { a with id := new }

/-- Goes on behind the greatest number of a relation. -/
def reseed (x : IndexedGraph G) : IndexedGraph G :=
  { x with counter := .reseed (x.edges.keys.map (⟨·⟩)) }

/-! ## Reconciling -/

/-- How far a reconciliation got. -/
structure Progress (G : Type) [Arena Argument Relation G] where
  /-- The graph so far. -/
  graph : IndexedGraph G
  /-- The events so far. -/
  events : List Event := []
  /-- The arguments that were placed. -/
  placed : List String := []

/-- The progress after an attempt, and why it stopped if it did. -/
def Progress.after {α : Type} (p : Progress G) (r : Attempt G α) (events : α → List Event)
    (placed : List String) : Progress G × Option Error :=
  match r with
  | ⟨x, .ok a⟩ => (⟨x, p.events ++ events a, p.placed ++ placed⟩, none)
  | ⟨x, .error e⟩ => ({ p with graph := x }, some e)

open Reconcile (Placement Step)

/-- Takes a step. -/
def takeStep (place : Placement) (p : Progress G) : Step → Progress G × Option Error
  | .removeArgument id => p.after (p.graph.removeArgument id) (fun events => events) []
  | .removeRelation id => p.after (p.graph.removeRelation id) (fun event => [event]) []
  | .putArgument id weight =>
    if canonicalId id ∈ p.graph.index then
      let set := p.graph.setArgumentWeight id weight
      ({ p with graph := set.1, events := p.events ++ set.2.toList }, none)
    else
      let position := place p.placed.length id
      p.after (p.graph.insertArgument { id, weight, position }) (fun event => [event]) [id]
  | .putRelation key weight =>
    match p.graph.findRelation? key with
    | some id =>
      let set := p.graph.setRelationWeight id weight
      ({ p with graph := set.1, events := p.events ++ set.2.toList }, none)
    | none => p.after (p.graph.insertRelation key weight) (fun id => [.relationAdded id]) []

/-- Takes steps up to the first one that is refused. -/
def takeSteps (place : Placement) : Progress G → List Step → Progress G × Option Error
  | p, [] => (p, none)
  | p, s :: ss =>
    match takeStep place p s with
    | (p, none) => takeSteps place p ss
    | (p, some e) => (p, some e)

/-- Takes rows of steps, each made from the graph that the rows before it leave. -/
def takeRows (place : Placement) :
    Progress G → List (IndexedGraph G → List Step) → Progress G × Option Error
  | p, [] => (p, none)
  | p, row :: rows =>
    match takeSteps place p (row p.graph) with
    | (p, none) => takeRows place p rows
    | (p, some e) => (p, some e)

/-- The rows of steps in their order. -/
def rows (f : Framework) : List (IndexedGraph G → List Step) :=
  [fun x => ((x.arguments.map (·.id)).filter (!f.containsArgument ·)).map .removeArgument,
    fun x => (x.relations.filter fun r => !f.containsRelation r.key).map
      fun r => .removeRelation r.id,
    fun _ => f.arguments.map fun e => .putArgument e.1 e.2,
    fun _ => f.relations.map fun e => .putRelation e.1 e.2]

/-- Changes a graph until it says what a framework says. -/
def reconcile (x : IndexedGraph G) (f : Framework) (place : Placement) :
    Attempt G (List Event) :=
  match Reconcile.undeclaredEnd? f with
  | some (key, id) => ⟨x, .error (Reconcile.refusal key id)⟩
  | none =>
    match takeRows place { graph := x } (rows f) with
    | (p, none) => ⟨p.graph.reseed, .ok p.events⟩
    | (p, some e) => ⟨p.graph, .error e⟩

/-! ## Operations -/

/-- The graph after an operation, and the events or why it was refused. -/
def perform (x : IndexedGraph G) : Graph.Operation → Attempt G (List Event)
  | .insertArgument a => (x.insertArgument a).map fun event => [event]
  | .removeArgument id => x.removeArgument id
  | .renameArgument id newId => x.renameArgument id newId
  | .setArgumentWeight id w =>
    let set := x.setArgumentWeight id w
    ⟨set.1, .ok set.2.toList⟩
  | .changeArgument id change => ⟨x.modifyArgument id (Graph.keepingId change), .ok []⟩
  | .changeArguments change => ⟨x.mapArguments (Graph.keepingId change), .ok []⟩
  | .insertRelation key w => (x.insertRelation key w).map fun id => [.relationAdded id]
  | .removeRelation id => (x.removeRelation id).map fun event => [event]
  | .setRelationWeight id w =>
    let set := x.setRelationWeight id w
    ⟨set.1, .ok set.2.toList⟩
  | .setRelationKind id kind => (x.setRelationKind id kind).map Option.toList
  | .reverseRelation id => (x.reverseRelation id).map fun event => [event]
  | .reseed => ⟨x.reseed, .ok []⟩
  | .clear => ⟨{}, .ok []⟩
  | .reconcile f place => x.reconcile f place

/-- The graph after some operations. -/
def run (x : IndexedGraph G) : List Graph.Operation → IndexedGraph G
  | [] => x
  | op :: ops => (x.perform op).graph.run ops

/-! ## Violations -/

/-- What is wrong with an entry of the index of arguments. -/
def entryViolations (x : IndexedGraph G) (entry : String × Nat) : List String :=
  match node? x.arena entry.2 with
  | none => ["argument index '" ++ entry.1 ++ "' points at a vacant slot"]
  | some a => Graph.nodeViolations ⟨entry.1, a⟩

/-- What is wrong with one end of a relation. -/
def endViolations (x : IndexedGraph G) (r : Relation) (id : String) : List String :=
  if id ∈ x.index then []
  else ["relation " ++ r.id.toText ++ " references missing argument '" ++ id ++ "'"]

/-- What is wrong with a relation behind other relations. -/
def relationViolations (x : IndexedGraph G) (earlier : List RelationKey) (r : Relation) :
    List String :=
  x.endViolations r r.source ++ x.endViolations r r.target ++
    (if r.key ∈ earlier then ["duplicate relation " ++ r.key.toText] else []) ++
    if r.id.number < x.counter.next then []
    else
      ["relation " ++ r.id.toText ++ " is not below the id counter " ++
        Nat.repr x.counter.next.toNat]

/-- What is wrong with relations behind other relations. -/
def relationsViolations (x : IndexedGraph G) : List RelationKey → List Relation → List String
  | _, [] => []
  | earlier, r :: rs =>
    x.relationViolations earlier r ++ x.relationsViolations (r.key :: earlier) rs

/-- All that is wrong with a graph. -/
def violations (x : IndexedGraph G) : List String :=
  x.index.toList.flatMap x.entryViolations ++
    (if x.order.length = x.index.size then []
    else
      ["argument order holds " ++ Nat.repr x.order.length ++ " entries for " ++
        Nat.repr x.index.size ++ " arguments"]) ++
    x.relationsViolations [] x.relations ++
    (if edgeCount x.arena = x.edges.size then []
    else
      ["arena holds " ++ Nat.repr (edgeCount x.arena) ++ " edges for " ++
        Nat.repr x.edges.size ++ " indexed relations"])

end IndexedGraph

end Argumentation
