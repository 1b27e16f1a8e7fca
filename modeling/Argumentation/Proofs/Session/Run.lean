import Argumentation.Proofs.Graph.Run
import Argumentation.Session.Debounced
import Argumentation.Session.Files
import Argumentation.Session.Results

/-!
# Runs of sessions

A session starts new and is worked with by operations, one after the other.  Each of them
succeeds or fails.  What a file holds, and what a semantics service answers, comes with the
operation that asks for it.

`drawnBy` counts the relations that come on the way, and with them the numbers that the counter
gives out.
-/

namespace Argumentation

namespace Session

/-! ## Operations -/

/-- Imports a project from a file that has been read, or that could not be read. -/
def importFrom (s : Session) (path : String) (read : Except Error String) :
    Session × Except Error Outcome :=
  match FileFormat.ofPath path with
  | .ok format => s.importRead path format read
  | .error e => (s, .error e)

/-- A file is only read if its name tells a format. -/
theorem importFile_of_ok {m : Type → Type} [Monad m] [Files m] {s : Session} {path : String}
    {format : FileFormat} (h : FileFormat.ofPath path = .ok format) :
    (s.importFile path : m _) = readFile path >>= fun read => pure (s.importFrom path read) := by
  unfold importFile importFrom
  rw [h]

theorem importFile_of_error {m : Type → Type} [Monad m] [Files m] {s : Session} {path : String}
    {e : Error} (h : FileFormat.ofPath path = .error e) (read : Except Error String) :
    (s.importFile path : m _) = pure (s.importFrom path read) := by
  unfold importFile importFrom
  rw [h]

/-- What can be asked of a session. -/
inductive Operation where
  /-- Applies a description, with the new arguments on the default grid. -/
  | applyDescription (text : String)
  /-- Applies a description, with the new arguments placed by a rule. -/
  | applyDescriptionWith (text : String) (place : Reconcile.Placement)
  /-- Applies what a debouncer gives. -/
  | applyReading (reading : Reading)
  /-- Changes the graph directly. -/
  | edit (e : Edit)
  /-- Moves an argument. -/
  | moveArgument (id : String) (position : Position)
  /-- Replaces the description by the canonical text of the graph. -/
  | syncText
  /-- Selects a row of a list of labelings. -/
  | selectLabeling (list : ResultList) (row : Nat)
  /-- Shows the lines of a text as strengths. -/
  | applyStrengthText (text : String)
  /-- Computes labelings. -/
  | computeLabelings (service : Service) (semantics : Option String)
  /-- Computes strengths. -/
  | computeStrengths (service : Service) (params : Option GradualParams)
  /-- Filters the labelings. -/
  | filterLabelings (service : Service) (constraints : String)
  /-- Discards all results. -/
  | resetResults
  /-- Drops the filtered labelings. -/
  | resetFiltered
  /-- Imports the text of a format. -/
  | importText (content : String) (format : FileFormat)
  /-- Imports a file, with what was read from it. -/
  | importFile (path : String) (read : Except Error String)
  /-- Names the project. -/
  | setProjectName (name : String)
  /-- Sets the name of the layout. -/
  | setLayout (layout : String)
  /-- Attaches a listener. -/
  | listen
  /-- Lets the listener go. -/
  | stopListening
  /-- Starts a new project. -/
  | reset

/-- A result with the events of its outcome. -/
def telling (r : Session × Except Error Outcome) : Session × Except Error (List Event) :=
  (r.1, r.2.map (·.events))

/-- A result without events. -/
def silent {α : Type} (r : Session × Except Error α) : Session × Except Error (List Event) :=
  (r.1, r.2.map fun _ => [])

/-- The session after an operation, and the events or why it failed. -/
def perform (s : Session) : Operation → Session × Except Error (List Event)
  | .applyDescription text => telling (s.applyDescription text)
  | .applyDescriptionWith text place => telling (s.applyDescriptionWith text place)
  | .applyReading reading =>
    let (s, applied) := s.applyReading reading
    match applied with
    | some outcome => telling (s, outcome)
    | none => (s, .ok [])
  | .edit e => telling (s.edit e)
  | .moveArgument id position => silent (s.moveArgument id position)
  | .syncText => (s.syncText, .ok [])
  | .selectLabeling list row => silent (s.selectLabeling list row)
  | .applyStrengthText text => ((s.applyStrengthText text).1, .ok [])
  | .computeLabelings service semantics => silent (s.computeLabelings service semantics)
  | .computeStrengths service params => silent (s.computeStrengths service params)
  | .filterLabelings service constraints => silent (s.filterLabelings service constraints)
  | .resetResults => (s.resetResults, .ok [])
  | .resetFiltered => (s.resetFiltered, .ok [])
  | .importText content format => telling (s.importText content format)
  | .importFile path read => telling (s.importFrom path read)
  | .setProjectName name => (s.setProjectName name, .ok [])
  | .setLayout layout => (s.setLayout layout, .ok [])
  | .listen => (s.listen, .ok [])
  | .stopListening => (s.stopListening, .ok [])
  | .reset => (s.reset, .ok [])

/-! ## Single steps -/

/-- What a debouncer gives is applied like any other description. -/
theorem perform_settled (s : Session) (text : String) :
    s.perform (.applyReading (.settled text)) = s.perform (.applyDescription text) := by
  simp only [perform, applyReading, telling]

section Steps

variable {s : Session} {e : Edit} {text : String} {f : Framework} {place : Reconcile.Placement}

/-- An edit that is refused changes nothing. -/
theorem edit_of_error {err : Error} (h : e.apply s.config.limits s.graph = .error err) :
    s.edit e = (s, .error err) := by
  simp only [edit, h]

/-- Any other edit is told. -/
theorem edit_of_ok {g : Graph} {es : List Event}
    (h : e.apply s.config.limits s.graph = .ok (g, es)) :
    s.edit e = ({ s with graph := g }.dispatch es,
      .ok (({ s with graph := g }.dispatch es).outcome es)) := by
  simp only [edit, h]

/-- When nothing is under way, the description follows what is told. -/
theorem dispatch_of_idle (idle : s.mode = .idle) (d : Event) (ds : List Event) :
    s.dispatch (d :: ds) = { s with listener := s.listener.tell (d :: ds) }.syncText := by
  simp only [dispatch, idle, reduceCtorEq, if_false]

theorem applyDescriptionWith_of_error {e : List Diagnostic}
    (h : Description.parse s.config.limits text = .error e) :
    s.applyDescriptionWith text place = (s, .error (.description e)) := by
  simp only [applyDescriptionWith, checkDescription, h, Except.mapError]

/-- A description that differs in surrounding blanks only is kept. -/
theorem applyDescriptionWith_of_applied (h : Description.parse s.config.limits text = .ok f)
    (happlied : s.lastApplied = some (Text.trim text)) :
    s.applyDescriptionWith text place =
      ({ s with description := text }, .ok ({ s with description := text }.outcome [])) := by
  simp only [applyDescriptionWith, checkDescription, h, Except.mapError, happlied, if_true]

/-- Any other description is what the graph is reconciled with. -/
theorem applyDescriptionWith_of_reconciled (h : Description.parse s.config.limits text = .ok f)
    (happlied : s.lastApplied ≠ some (Text.trim text)) {es : List Event}
    (hes : ((Overlay.clearResults s.graph).reconcile f place).outcome = .ok es) :
    ∃ listener features, s.applyDescriptionWith text place =
      ({ s with
        graph := ((Overlay.clearResults s.graph).reconcile f place).graph
        description := text
        lastApplied := some (Text.trim text)
        overlay := {}
        mode := .idle
        listener }, .ok ⟨features, es⟩) := by
  simp only [applyDescriptionWith, checkDescription, h, Except.mapError, happlied, if_false,
    applyFramework, resetResults, hes]
  cases es with
  | nil => exact ⟨s.listener, _, rfl⟩
  | cons d ds => exact ⟨s.listener.tell (d :: ds), _, rfl⟩

end Steps

/-! ## Runs -/

/-- How many relations come with an operation. -/
def drawn (s : Session) (op : Operation) : Nat := Graph.told (s.perform op).2

/-- The session after some operations. -/
def run (s : Session) : List Operation → Session
  | [] => s
  | op :: ops => (s.perform op).1.run ops

/-- How many relations come with some operations. -/
def drawnBy (s : Session) : List Operation → Nat
  | [] => 0
  | op :: ops => s.drawn op + (s.perform op).1.drawnBy ops

theorem run_append (s : Session) (ops ops' : List Operation) :
    s.run (ops ++ ops') = (s.run ops).run ops' := by
  induction ops generalizing s with
  | nil => rfl
  | cons op ops ih => exact ih (s.perform op).1

theorem drawnBy_append (s : Session) (ops ops' : List Operation) :
    s.drawnBy (ops ++ ops') = s.drawnBy ops + (s.run ops).drawnBy ops' := by
  induction ops generalizing s with
  | nil => exact (Nat.zero_add _).symm
  | cons op ops ih =>
    rw [List.cons_append, drawnBy, ih, drawnBy, Nat.add_assoc]
    rfl

end Session

end Argumentation
