import Argumentation.Classification
import Argumentation.Config
import Argumentation.Description.Parser
import Argumentation.Edit
import Argumentation.Graph.Canonical
import Argumentation.Graph.Reconcile
import Argumentation.Overlay

/-!
# Sessions

A session holds a description and a graph that say the same.  A new description
changes the graph: `applyDescription`.  A direct change of the graph puts the
description in canonical form again: `edit`.  The mode tells which of the two is under
way, so that the changes that a new description makes to the graph never touch
that description.

A description that has faults, or an edit that is refused, changes nothing.  A
description that differs from the last one in surrounding blanks only is kept, but
the graph stays as it is.

Results that are shown on the graph are discarded when a description is applied to
the graph and when an edit changes it.
-/

namespace Argumentation

/-- Which of description and graph follows the other at the moment. -/
inductive SyncMode where
  /-- Neither. -/
  | idle
  /-- The graph is being changed to what the description says. -/
  | applyingText
  /-- The description is being changed to what the graph says. -/
  | applyingGraph
  deriving DecidableEq

/-- Who listens to the changes of a graph. -/
inductive Listener where
  /-- Nobody listens. -/
  | absent
  /-- A listener that has received some events. -/
  | attached (received : List Event)
  /-- The listener has gone, which nobody has noticed yet. -/
  | gone
  deriving DecidableEq

namespace Listener

/-- Tells events. -/
def tell (events : List Event) : Listener → Listener
  | absent => absent
  | attached received => attached (received ++ events)
  | gone => absent

/-- The events that were received. -/
def received : Listener → List Event
  | attached events => events
  | _ => []

end Listener

/-- What a step of a session did. -/
structure Outcome where
  /-- The features of the graph afterwards. -/
  features : Features
  /-- What changed. -/
  events : List Event
  deriving DecidableEq

/-- Whether something changed. -/
def Outcome.changed (o : Outcome) : Bool := !o.events.isEmpty

/-- A description and a graph that are kept together. -/
structure Session where
  /-- The settings. -/
  config : Config
  /-- The graph. -/
  graph : Graph := {}
  /-- The description. -/
  description : String := ""
  /-- The description that the graph was last brought together with, without
  surrounding blanks. -/
  lastApplied : Option String := none
  /-- The results. -/
  overlay : Overlay := {}
  /-- What is under way. -/
  mode : SyncMode := .idle
  /-- Who listens. -/
  listener : Listener := .absent
  /-- The name of the project. -/
  projectName : String := config.defaults.projectName
  /-- The name of the layout. -/
  layout : String := config.defaults.layout
  deriving DecidableEq

namespace Session

/-! ## The project -/

/-- A session with a new project. -/
def new (config : Config) : Session := { config }

/-- Starts a new project.  The listener stays. -/
def reset (s : Session) : Session := { config := s.config, listener := s.listener }

/-- Names the project.  A blank name stands for the standard one. -/
def setProjectName (s : Session) (name : String) : Session :=
  let name := Text.trim name
  { s with projectName := if name = "" then s.config.defaults.projectName else name }

/-- Sets the name of the layout. -/
def setLayout (s : Session) (layout : String) : Session := { s with layout }

/-- Attaches a listener in place of the one there is. -/
def listen (s : Session) : Session := { s with listener := .attached [] }

/-- Lets the listener go. -/
def stopListening (s : Session) : Session :=
  match s.listener with
  | .attached _ => { s with listener := .gone }
  | _ => s

/-! ## From the graph to the description -/

/-- The features of the graph and what changed. -/
def outcome (s : Session) (events : List Event) : Outcome := ⟨s.graph.features, events⟩

/-- Discards all results. -/
def resetResults (s : Session) : Session :=
  { s with overlay := {}, graph := Overlay.clearResults s.graph }

/-- Replaces the description by the canonical text of the graph. -/
def syncText (s : Session) : Session :=
  let s := { s with mode := .applyingGraph }
  let s := s.resetResults
  let text := s.graph.toText
  { s with mode := .idle, description := text, lastApplied := some (Text.trim text) }

/-- Tells the listener what changed and, if nothing is under way, replaces the
description. -/
def dispatch (s : Session) (events : List Event) : Session :=
  if events = [] then s
  else
    let s := { s with listener := s.listener.tell events }
    match s.mode with
    | .idle => s.syncText
    | _ => s

/-- Carries out a direct change of the graph. -/
def edit (s : Session) (e : Edit) : Session × Except Error Outcome :=
  match e.apply s.config.limits s.graph with
  | .error e => (s, .error e)
  | .ok (graph, events) =>
    let s := { s with graph }.dispatch events
    (s, .ok (s.outcome events))

/-- Moves an argument.  A description says nothing about places, so there is no
event. -/
def moveArgument (s : Session) (id : String) (position : Position) :
    Session × Except Error Unit :=
  if s.graph.contains id then
    ({ s with graph := s.graph.modifyArgument id fun a => { a with position } }, .ok ())
  else (s, .error (missingArgument (canonicalId id)))

/-! ## From the description to the graph -/

/-- The framework of a description, which is not applied. -/
def checkDescription (s : Session) (text : String) : Except Error Framework :=
  (Description.parse s.config.limits text).mapError .description

/-- Changes the graph to what a framework says. -/
def applyFramework (s : Session) (f : Framework) (place : Reconcile.Placement) :
    Session × Except Error (List Event) :=
  let s := s.resetResults
  let r := s.graph.reconcile f place
  let s := { s with graph := r.graph }
  match r.outcome with
  | .error e => (s, .error e)
  | .ok events => (s.dispatch events, .ok events)

/-- Applies a description and places the new arguments by a rule. -/
def applyDescriptionWith (s : Session) (text : String) (place : Reconcile.Placement) :
    Session × Except Error Outcome :=
  match s.checkDescription text with
  | .error e => (s, .error e)
  | .ok f =>
    let s := { s with description := text }
    let trimmed := Text.trim text
    if s.lastApplied = some trimmed then (s, .ok (s.outcome []))
    else
      let (s, applied) := { s with mode := .applyingText }.applyFramework f place
      let s := { s with mode := .idle }
      match applied with
      | .error e => (s, .error e)
      | .ok events =>
        let s := { s with lastApplied := some trimmed }
        (s, .ok (s.outcome events))

/-- Applies a description and places the new arguments on the default grid, behind
as many places as there are arguments. -/
def applyDescription (s : Session) (text : String) : Session × Except Error Outcome :=
  s.applyDescriptionWith text fun n _ => gridPosition (s.graph.nodes.length + n)

end Session

end Argumentation
