import Argumentation.Relation

/-!
# Events

A change of a graph is told as a list of events.  Changes of the results that are
shown are no events.
-/

namespace Argumentation

/-- A change of a graph. -/
inductive Event where
  /-- An argument came. -/
  | argumentAdded (id : String)
  /-- The weight or the description of an argument changed. -/
  | argumentUpdated (id : String)
  /-- An argument got another identifier. -/
  | argumentRenamed (old new : String)
  /-- An argument went. -/
  | argumentRemoved (id : String)
  /-- A relation came. -/
  | relationAdded (id : RelationId)
  /-- The weight or the kind of a relation changed. -/
  | relationUpdated (id : RelationId)
  /-- The ends of a relation changed. -/
  | relationMoved (id : RelationId)
  /-- A relation went. -/
  | relationRemoved (id : RelationId)
  deriving DecidableEq

namespace Event

/-- The argument that the event is about, by its newest identifier. -/
def argument? : Event → Option String
  | .argumentAdded id => some id
  | .argumentUpdated id => some id
  | .argumentRenamed _ new => some new
  | .argumentRemoved id => some id
  | _ => none

/-- The relation that the event is about. -/
def relation? : Event → Option RelationId
  | .relationAdded id => some id
  | .relationUpdated id => some id
  | .relationMoved id => some id
  | .relationRemoved id => some id
  | _ => none

/-- The name of the kind of event. -/
def name : Event → String
  | .argumentAdded _ => "ArgumentAdded"
  | .argumentUpdated _ => "ArgumentUpdated"
  | .argumentRenamed .. => "ArgumentRenamed"
  | .argumentRemoved _ => "ArgumentRemoved"
  | .relationAdded _ => "RelationAdded"
  | .relationUpdated _ => "RelationUpdated"
  | .relationMoved _ => "RelationMoved"
  | .relationRemoved _ => "RelationRemoved"

/-- The subject of the event. -/
def subject : Event → String
  | .argumentAdded id => id
  | .argumentUpdated id => id
  | .argumentRenamed old new => old ++ " -> " ++ new
  | .argumentRemoved id => id
  | .relationAdded id => id.toText
  | .relationUpdated id => id.toText
  | .relationMoved id => id.toText
  | .relationRemoved id => id.toText

/-- The event in words. -/
def toText (e : Event) : String := e.name ++ "(" ++ e.subject ++ ")"

/-- Whether something came. -/
def isAddition : Event → Bool
  | .argumentAdded _ => true
  | .relationAdded _ => true
  | _ => false

/-- Whether something went. -/
def isRemoval : Event → Bool
  | .argumentRemoved _ => true
  | .relationRemoved _ => true
  | _ => false

end Event

end Argumentation
