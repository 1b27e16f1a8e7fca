import Argumentation.Argument
import Argumentation.Error
import Argumentation.Event
import Argumentation.Framework

/-!
# Graphs

A graph is the live form of a framework.  Its arguments have places, descriptions
and appearances and stand in the order in which they came; its relations have
numbers, which grow in the order in which they came.  An argument is found by the
canonical form of its identifier, so case makes no difference.

Every change is told by events.  A change that is refused leaves the graph as it
was.
-/

namespace Argumentation

/-- An argument of a graph and the identifier it is found by. -/
structure Node where
  /-- The identifier it is found by. -/
  key : String
  /-- The argument. -/
  argument : Argument
  deriving DecidableEq

/-- A graph of arguments and relations. -/
structure Graph where
  /-- The arguments in the order in which they came. -/
  nodes : List Node := []
  /-- The relations in the order of their numbers. -/
  relations : List Relation := []
  /-- The source of the numbers of relations. -/
  counter : RelationCounter := {}
  deriving DecidableEq

/-- What cannot be found when an argument is unknown. -/
def missingArgument (id : String) : Error := .notFound ("argument '" ++ id ++ "'")

/-- What cannot be found when a relation is unknown. -/
def missingRelation (id : RelationId) : Error := .notFound ("relation '" ++ id.toText ++ "'")

namespace Graph

/-! ## Views -/

/-- The arguments in the order in which they came. -/
def arguments (g : Graph) : List Argument := g.nodes.map (·.argument)

/-- Whether there is no argument. -/
def isEmpty (g : Graph) : Bool := g.nodes.isEmpty

/-- Whether an argument is found by exactly this identifier. -/
def hasKey (g : Graph) (key : String) : Bool := g.nodes.any (·.key = key)

/-- Whether there is an argument of this identifier. -/
def contains (g : Graph) (id : String) : Bool := g.hasKey (canonicalId id)

/-- The argument of an identifier. -/
def argument? (g : Graph) (id : String) : Option Argument :=
  (g.nodes.find? (·.key = canonicalId id)).map (·.argument)

/-- The relation of a number. -/
def relation? (g : Graph) (id : RelationId) : Option Relation := g.relations.find? (·.id = id)

/-- The numbers of the relations. -/
def relationIds (g : Graph) : List RelationId := g.relations.map (·.id)

/-- The number of the relation that says this. -/
def findRelation? (g : Graph) (key : RelationKey) : Option RelationId :=
  (g.relations.find? (·.key = key)).map (·.id)

/-- Whether a relation starts from an argument or leads to it. -/
def touches (key : String) (r : Relation) : Bool := r.source = key || r.target = key

/-- The numbers of the relations of an argument. -/
def incident (g : Graph) (id : String) : List RelationId :=
  (g.relations.filter (touches (canonicalId id))).map (·.id)

/-! ## Changes of single entries -/

/-- Changes every argument. -/
def mapArguments (g : Graph) (f : Argument → Argument) : Graph :=
  { g with nodes := g.nodes.map fun n => { n with argument := f n.argument } }

/-- Changes the argument of an identifier. -/
def modifyArgument (g : Graph) (id : String) (f : Argument → Argument) : Graph :=
  { g with
    nodes := g.nodes.map fun n =>
      if n.key = canonicalId id then { n with argument := f n.argument } else n }

/-- Changes the relation of a number. -/
def modifyRelation (g : Graph) (id : RelationId) (f : Relation → Relation) : Graph :=
  { g with relations := g.relations.map fun r => if r.id = id then f r else r }

/-- Goes on behind the greatest number of a relation. -/
def reseed (g : Graph) : Graph := { g with counter := .reseed g.relationIds }

/-! ## Arguments -/

/-- Adds an argument at the end. -/
def insertArgument (g : Graph) (a : Argument) : Except Error (Graph × Event) :=
  let a := { a with id := canonicalId a.id }
  if g.hasKey a.id then .error (.duplicateArgument a.id)
  else .ok ({ g with nodes := g.nodes ++ [⟨a.id, a⟩] }, .argumentAdded a.id)

/-- Removes an argument and all its relations. -/
def removeArgument (g : Graph) (id : String) : Except Error (Graph × List Event) :=
  let key := canonicalId id
  if !g.hasKey key then .error (missingArgument key)
  else
    .ok ({ g with
      nodes := g.nodes.filter (·.key ≠ key)
      relations := g.relations.filter (!touches key ·) },
      (g.incident key).map .relationRemoved ++ [.argumentRemoved key])

/-- Sets the weight of an argument.  There is no event if it does not change. -/
def setArgumentWeight (g : Graph) (id : String) (weight : Option Binary64) :
    Graph × Option Event :=
  match g.argument? id with
  | none => (g, none)
  | some a =>
    if Binary64.optionEq a.weight weight then (g, none)
    else (g.modifyArgument id fun a => { a with weight }, some (.argumentUpdated a.id))

/-- A relation in which an argument goes by another identifier. -/
def renameEnds (old new : String) (r : Relation) : Relation :=
  { r with
    source := if r.source = old then new else r.source
    target := if r.target = old then new else r.target }

/-- Gives an argument another identifier.  It keeps all else and goes to the end. -/
def renameArgument (g : Graph) (id newId : String) : Except Error (Graph × List Event) :=
  let old := canonicalId id
  let new := canonicalId newId
  if old = new then .ok (g, [])
  else if g.hasKey new then .error (.duplicateArgument new)
  else
    match g.nodes.find? (·.key = old) with
    | none => .error (missingArgument old)
    | some n =>
      .ok ({ g with
        nodes := g.nodes.filter (·.key ≠ old) ++ [⟨new, { n.argument with id := new }⟩]
        relations := g.relations.map (renameEnds old new) },
        .argumentRenamed old new :: (g.incident old).map .relationMoved)

/-! ## Relations -/

/-- Adds a relation under a fresh number. -/
def insertRelation (g : Graph) (key : RelationKey) (weight : Option Binary64) :
    Except Error (Graph × RelationId) :=
  let key : RelationKey := ⟨key.kind, canonicalId key.source, canonicalId key.target⟩
  if !g.hasKey key.source then .error (missingArgument key.source)
  else if !g.hasKey key.target then .error (missingArgument key.target)
  else if (g.findRelation? key).isSome then .error (.duplicateRelation key.toText)
  else
    let (id, counter) := g.counter.generate
    let r : Relation := ⟨id, key.source, key.target, key.kind, weight⟩
    .ok ({ g with relations := g.relations ++ [r], counter }, id)

/-- Removes a relation. -/
def removeRelation (g : Graph) (id : RelationId) : Except Error (Graph × Event) :=
  match g.relation? id with
  | none => .error (missingRelation id)
  | some _ =>
    .ok ({ g with relations := g.relations.filter (·.id ≠ id) }, .relationRemoved id)

/-- Sets the weight of a relation.  There is no event if it does not change. -/
def setRelationWeight (g : Graph) (id : RelationId) (weight : Option Binary64) :
    Graph × Option Event :=
  match g.relation? id with
  | none => (g, none)
  | some r =>
    if Binary64.optionEq r.weight weight then (g, none)
    else (g.modifyRelation id fun r => { r with weight }, some (.relationUpdated id))

/-- Sets the kind of a relation.  There is no event if it does not change. -/
def setRelationKind (g : Graph) (id : RelationId) (kind : RelationKind) :
    Except Error (Graph × Option Event) :=
  match g.relation? id with
  | none => .error (missingRelation id)
  | some r =>
    let key : RelationKey := ⟨kind, r.source, r.target⟩
    if r.kind = kind then .ok (g, none)
    else if (g.findRelation? key).isSome then .error (.duplicateRelation key.toText)
    else .ok (g.modifyRelation id fun r => { r with kind }, some (.relationUpdated id))

/-- Turns a relation round. -/
def reverseRelation (g : Graph) (id : RelationId) : Except Error (Graph × Event) :=
  match g.relation? id with
  | none => .error (missingRelation id)
  | some r =>
    let key := r.key.reverse
    let turned : Graph × Event :=
      (g.modifyRelation id fun r => { r with source := r.target, target := r.source },
        .relationMoved id)
    match g.findRelation? key with
    | none => .ok turned
    | some other => if other = id then .ok turned else .error (.duplicateRelation key.toText)

end Graph

end Argumentation
