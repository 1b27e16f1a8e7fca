import Argumentation.Graph.Basic

/-!
# Edits

The changes that a user makes directly to a graph.  An edit is checked against the
limits and then carried out, so that the graph holds nothing that a description
could not say.  An edit that is refused changes nothing.

The description of an argument is taken without surrounding blanks, and a blank one
is none.
-/

namespace Argumentation

/-- A change that a user makes to a graph. -/
inductive Edit where
  /-- Adds an argument. -/
  | addArgument (id : String) (weight : Option Binary64) (description : Option String)
    (position : Position)
  /-- Gives an argument an identifier, a weight and a description. -/
  | editArgument (id newId : String) (weight : Option Binary64) (description : Option String)
  /-- Removes an argument and its relations. -/
  | removeArgument (id : String)
  /-- Removes the relations of an argument. -/
  | clearRelations (id : String)
  /-- Adds a relation. -/
  | addRelation (key : RelationKey) (weight : Option Binary64)
  /-- Gives a relation a kind and a weight. -/
  | editRelation (id : RelationId) (kind : RelationKind) (weight : Option Binary64)
  /-- Turns a relation round. -/
  | reverseRelation (id : RelationId)
  /-- Turns an attack into a support and a support into an attack. -/
  | switchRelation (id : RelationId)
  /-- Removes a relation. -/
  | removeRelation (id : RelationId)
  deriving DecidableEq

namespace Edit

/-! ## Checks -/

/-- Checks the identifier and the weight of an argument. -/
def checkArgument (limits : Limits) (id : String) (weight : Option Binary64) :
    Except Error Unit :=
  match validateIdentifier limits id with
  | .error e => .error (.validation e)
  | .ok () => (checkWeight limits .node weight).mapError .validation

/-- Checks the weight of a relation. -/
def checkRelation (limits : Limits) (weight : Option Binary64) : Except Error Unit :=
  (checkWeight limits .edge weight).mapError .validation

/-- A description without surrounding blanks, if it is not blank. -/
def trimmed? (description : Option String) : Option String :=
  (description.map Text.trim).filter (· ≠ "")

/-- Checks a description and gives it without surrounding blanks. -/
def checkDescription (limits : Limits) (description : Option String) :
    Except Error (Option String) :=
  match trimmed? description with
  | none => .ok none
  | some text =>
    match validateText limits text with
    | .ok () => .ok (some text)
    | .error e => .error (.validation e)

/-! ## Changes -/

/-- Adds an argument. -/
def insert (limits : Limits) (g : Graph) (id : String) (weight : Option Binary64)
    (description : Option String) (position : Position) : Except Error (Graph × List Event) := do
  checkArgument limits id weight
  let description ← checkDescription limits description
  let (g, event) ← g.insertArgument { id, weight, description, position }
  .ok (g, [event])

/-- Sets the description of an argument.  There is no event if it does not change. -/
def describe (g : Graph) (id : String) (description : Option String) : Graph × Option Event :=
  match g.argument? id with
  | none => (g, none)
  | some a =>
    if a.description = description then (g, none)
    else (g.modifyArgument id fun a => { a with description }, some (.argumentUpdated id))

/-- Events and one more, if there is one that is not among them. -/
def also (events : List Event) : Option Event → List Event
  | none => events
  | some e => if e ∈ events then events else events ++ [e]

/-- Gives an argument an identifier, a weight and a description. -/
def update (limits : Limits) (g : Graph) (id newId : String) (weight : Option Binary64)
    (description : Option String) : Except Error (Graph × List Event) := do
  checkArgument limits newId weight
  let description ← checkDescription limits description
  if !g.contains id then .error (missingArgument (canonicalId id))
  else
    let (g, events) ← g.renameArgument id newId
    let current := canonicalId newId
    let (g, weighed) := g.setArgumentWeight current weight
    let (g, described) := describe g current description
    .ok (g, also (events ++ weighed.toList) described)

/-- Removes relations one after the other. -/
def removeAll (g : Graph) : List RelationId → Except Error (Graph × List Event)
  | [] => .ok (g, [])
  | id :: ids => do
    let (g, event) ← g.removeRelation id
    let (g, events) ← removeAll g ids
    .ok (g, event :: events)

/-- Gives a relation a kind and a weight. -/
def updateRelation (limits : Limits) (g : Graph) (id : RelationId) (kind : RelationKind)
    (weight : Option Binary64) : Except Error (Graph × List Event) := do
  checkRelation limits weight
  let (g, switched) ← g.setRelationKind id kind
  let (g, weighed) := g.setRelationWeight id weight
  .ok (g, also switched.toList weighed)

/-- The graph after an edit and what changed. -/
def apply (limits : Limits) (g : Graph) : Edit → Except Error (Graph × List Event)
  | addArgument id weight description position => insert limits g id weight description position
  | editArgument id newId weight description => update limits g id newId weight description
  | removeArgument id => g.removeArgument id
  | clearRelations id =>
    if !g.contains id then .error (missingArgument (canonicalId id))
    else removeAll g (g.incident id)
  | addRelation key weight => do
    checkRelation limits weight
    let (g, id) ← g.insertRelation key weight
    .ok (g, [.relationAdded id])
  | editRelation id kind weight => updateRelation limits g id kind weight
  | reverseRelation id => do
    let (g, event) ← g.reverseRelation id
    .ok (g, [event])
  | switchRelation id =>
    match g.relation? id with
    | none => .error (missingRelation id)
    | some r => do
      let (g, event) ← g.setRelationKind id r.kind.opposite
      .ok (g, event.toList)
  | removeRelation id => do
    let (g, event) ← g.removeRelation id
    .ok (g, [event])

end Edit

end Argumentation
