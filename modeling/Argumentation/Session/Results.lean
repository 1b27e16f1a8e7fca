import Argumentation.Colors
import Argumentation.Semantics.Response
import Argumentation.Session.Basic

/-!
# Results of sessions

A session asks the semantics service for labelings and strengths of its
description and shows the answers on its graph.  Neither the description nor what
the graph says changes by this.
-/

namespace Argumentation

namespace Session

/-- The session that shows results as given. -/
def showing (s : Session) (shown : Overlay × Graph) : Session :=
  { s with overlay := shown.1, graph := shown.2 }

/-! ## Showing results -/

/-- Selects a row of a list of labelings. -/
def selectLabeling (s : Session) (list : ResultList) (row : Nat) : Session × Except Error Unit :=
  match s.overlay.select s.graph list row with
  | .ok shown => (s.showing shown, .ok ())
  | .error e => (s, .error e)

/-- Shows lines of strengths.  The number of lines that are shown comes with it. -/
def showStrengths (s : Session) (lines : List String) : Session × Nat :=
  let (overlay, graph, count) := s.overlay.setStrengths s.graph lines
  (s.showing (overlay, graph), count)

/-- Shows the lines of a text that the user has edited. -/
def applyStrengthText (s : Session) (text : String) : Session × Nat :=
  s.showStrengths (Text.lines text)

/-- Drops the filtered labelings. -/
def resetFiltered (s : Session) : Session := s.showing (s.overlay.resetFiltered s.graph)

/-! ## Asking the service -/

/-- The request for labelings of the description, by the standard semantics if none
is named. -/
def extensionRequest (s : Session) (semantics : Option String) :
    Except Error ExtensionRequest :=
  ExtensionRequest.make (semantics.getD s.config.defaults.extensionSemantics) s.description

/-- The request for strengths, with the standard settings if none are given. -/
def gradualRequest (s : Session) (params : Option GradualParams) :
    Except Error GradualRequest :=
  GradualRequest.make s.description (params.getD s.config.defaults.gradual)

/-- The request for those of the labelings that meet constraints. -/
def filterRequest (s : Session) (constraints : String) : Except Error FilterRequest :=
  FilterRequest.make s.overlay.primary constraints

/-- Computes labelings. -/
def computeLabelings (s : Session) (service : Service) (semantics : Option String) :
    Session × Except Error (List String) :=
  let rows := do
    let response ← service.extensions (← s.extensionRequest semantics)
    response.rows
  match rows with
  | .ok rows => (s.showing (s.overlay.setLabelings s.graph rows), .ok rows)
  | .error e => (s, .error e)

/-- Computes strengths.  The number of lines that are shown comes with them. -/
def computeStrengths (s : Session) (service : Service) (params : Option GradualParams) :
    Session × Except Error Nat :=
  let lines := do
    let response ← service.strengths (← s.gradualRequest params)
    response.rows
  match lines with
  | .ok lines =>
    let (s, count) := s.showStrengths lines
    (s, .ok count)
  | .error e => (s, .error e)

/-- Filters the labelings by constraints, one on each line. -/
def filterLabelings (s : Session) (service : Service) (constraints : String) :
    Session × Except Error (List String) :=
  let rows := do
    let response ← service.filter (← s.filterRequest constraints)
    response.filteredRows
  match rows with
  | .ok rows => (s.showing (s.overlay.setFiltered s.graph rows), .ok rows)
  | .error e => (s, .error e)

/-! ## Appearance -/

/-- The colours of the arguments. -/
def colors (s : Session) : List (String × Colors) :=
  s.graph.arguments.map fun a => (a.id, a.appearance.colors)

end Session

end Argumentation
