import Argumentation.Proofs.Session.Run

/-!
# Listening changes nothing

A listener is told what changed, and nothing else depends on it.  To perform an operation while
another listener is there, or none, or one that has gone, gives the same session but for the
listener, the same events and the same reply (`perform_hear`, `reply_hear`).

The events of an operation are also all that a listener receives from it: it stays if there are
none, and is told all of them at once otherwise (`Listener.heard`).

So a run in which listeners come and go is a run in which they do not (`exists_run_hear`).
-/

namespace Argumentation

/-- A listener after some events.  If there are none, it is not told anything. -/
def Listener.heard (events : List Event) (l : Listener) : Listener :=
  if events = [] then l else l.tell events

theorem Listener.heard_nil (l : Listener) : l.heard [] = l := if_pos rfl

theorem Listener.heard_attached (received events : List Event) :
    (Listener.attached received).heard events = .attached (received ++ events) := by
  unfold heard
  split
  · next h => rw [h, List.append_nil]
  · rfl

namespace Session

/-! ## Replies -/

/-- What comes back from an operation. -/
inductive Reply where
  /-- The outcome of a step. -/
  | outcome (r : Except Error Outcome)
  /-- A success or an error. -/
  | done (r : Except Error Unit)
  /-- Lines that were computed. -/
  | rows (r : Except Error (List String))
  /-- A number of lines that are shown. -/
  | count (r : Except Error Nat)
  /-- Nothing. -/
  | nothing

/-- What comes back from an operation in a session. -/
def reply (s : Session) : Operation → Reply
  | .applyDescription text => .outcome (s.applyDescription text).2
  | .applyDescriptionWith text place => .outcome (s.applyDescriptionWith text place).2
  | .applyReading reading =>
    match (s.applyReading reading).2 with
    | some applied => .outcome applied
    | none => .nothing
  | .edit e => .outcome (s.edit e).2
  | .moveArgument id position => .done (s.moveArgument id position).2
  | .selectLabeling list row => .done (s.selectLabeling list row).2
  | .applyStrengthText text => .count (.ok (s.applyStrengthText text).2)
  | .computeLabelings service semantics => .rows (s.computeLabelings service semantics).2
  | .computeStrengths service params => .count (s.computeStrengths service params).2
  | .filterLabelings service constraints => .rows (s.filterLabelings service constraints).2
  | .importText content format => .outcome (s.importText content format).2
  | .importFile path read => .outcome (s.importFrom path read).2
  | _ => .nothing

theorem reply_settled (s : Session) (text : String) :
    s.reply (.applyReading (.settled text)) = s.reply (.applyDescription text) := by
  simp only [reply, applyReading]

/-- Whether a listener is attached or let go. -/
def Operation.isListening : Operation → Bool
  | .listen => true
  | .stopListening => true
  | _ => false

/-- What comes back from some operations.  Listeners that come and go are passed over. -/
def replies (s : Session) : List Operation → List Reply
  | [] => []
  | op :: ops =>
    if op.isListening then (s.perform op).1.replies ops
    else s.reply op :: (s.perform op).1.replies ops

/-- The events of a success. -/
def succeeded : Except Error (List Event) → List Event
  | .ok events => events
  | .error _ => []

/-! ## Another listener -/

variable {s : Session}

/-- The session with another listener. -/
def hear (s : Session) (l : Listener) : Session := { s with listener := l }

theorem hear_hear (s : Session) (l l' : Listener) : (s.hear l).hear l' = s.hear l' := rfl

/-- The result that there is with another listener, which hears of some events. -/
def heard {α : Type} (l : Listener) (events : List Event) (r : Session × α) : Session × α :=
  (r.1.hear (l.heard events), r.2)

theorem heard_nil {α : Type} (l : Listener) (r : Session × α) :
    heard l [] r = (r.1.hear l, r.2) := by
  rw [heard, Listener.heard_nil]

/-- The events of an outcome. -/
def eventsOf (r : Except Error Outcome) : List Event := succeeded (r.map (·.events))

section Hear

variable (l : Listener)

theorem dispatch_hear (s : Session) (es : List Event) :
    (s.hear l).dispatch es = (s.dispatch es).hear (l.heard es) := by
  unfold dispatch Listener.heard
  split
  · rfl
  · have hmode : (s.hear l).mode = s.mode := rfl
    simp only [hmode]
    cases s.mode <;> rfl

theorem edit_hear (s : Session) (e : Edit) :
    (s.hear l).edit e = heard l (eventsOf (s.edit e).2) (s.edit e) := by
  cases happly : e.apply s.config.limits s.graph with
  | error err =>
    rw [edit_of_error happly, edit_of_error (s := s.hear l) happly]
    exact (heard_nil l (s, _)).symm
  | ok r =>
    obtain ⟨g, es⟩ := r
    have hgraph : { s.hear l with graph := g } = { s with graph := g }.hear l := rfl
    rw [edit_of_ok happly, edit_of_ok (s := s.hear l) happly, hgraph, dispatch_hear]
    rfl

theorem applyFramework_hear (s : Session) (f : Framework) (place : Reconcile.Placement) :
    (s.hear l).applyFramework f place =
      heard l (succeeded (s.applyFramework f place).2) (s.applyFramework f place) := by
  generalize hr : s.resetResults.graph.reconcile f place = r
  cases hok : r.outcome with
  | error e =>
    have hfails (t : Session) (ht : t.resetResults.graph.reconcile f place = r) :
        t.applyFramework f place = ({ t.resetResults with graph := r.graph }, .error e) := by
      simp only [applyFramework, ht, hok]
    rw [hfails s hr, hfails (s.hear l) hr]
    exact (heard_nil l ({ s.resetResults with graph := r.graph }, _)).symm
  | ok events =>
    have happlies (t : Session) (ht : t.resetResults.graph.reconcile f place = r) :
        t.applyFramework f place =
          ({ t.resetResults with graph := r.graph }.dispatch events, .ok events) := by
      simp only [applyFramework, ht, hok]
    have hgraph : { (s.hear l).resetResults with graph := r.graph } =
        { s.resetResults with graph := r.graph }.hear l := rfl
    rw [happlies s hr, happlies (s.hear l) hr, hgraph, dispatch_hear]
    rfl

/-- What is left to do when a framework has been applied. -/
def concluded (trimmed : String) (r : Session × Except Error (List Event)) :
    Session × Except Error Outcome :=
  match r.2 with
  | .error e => ({ r.1 with mode := .idle }, .error e)
  | .ok events =>
    let s := { r.1 with mode := .idle, lastApplied := some trimmed }
    (s, .ok (s.outcome events))

theorem applyDescriptionWith_eq_concluded {s : Session} {text : String} {f : Framework}
    (h : Description.parse s.config.limits text = .ok f)
    (happlied : s.lastApplied ≠ some (Text.trim text))
    (place : Reconcile.Placement) :
    s.applyDescriptionWith text place = concluded (Text.trim text)
      ({ s with description := text, mode := .applyingText }.applyFramework f place) := by
  simp only [applyDescriptionWith, checkDescription, h, Except.mapError, happlied, if_false]
  generalize applyFramework _ f place = r
  obtain ⟨t, applied⟩ := r
  cases applied <;> rfl

theorem concluded_heard (trimmed : String) (r : Session × Except Error (List Event)) :
    concluded trimmed (heard l (succeeded r.2) r) =
      heard l (eventsOf (concluded trimmed r).2) (concluded trimmed r) := by
  obtain ⟨s, applied⟩ := r
  cases applied <;> rfl

theorem applyDescriptionWith_hear (s : Session) (text : String) (place : Reconcile.Placement) :
    (s.hear l).applyDescriptionWith text place =
      heard l (eventsOf (s.applyDescriptionWith text place).2) (s.applyDescriptionWith text place) := by
  cases hparse : Description.parse s.config.limits text with
  | error e =>
    rw [applyDescriptionWith_of_error hparse, applyDescriptionWith_of_error (s := s.hear l) hparse]
    exact (heard_nil l (s, _)).symm
  | ok f =>
    cases decEq s.lastApplied (some (Text.trim text)) with
    | isTrue happlied =>
      rw [applyDescriptionWith_of_applied hparse happlied,
        applyDescriptionWith_of_applied (s := s.hear l) hparse happlied]
      exact (heard_nil l ({ s with description := text }, _)).symm
    | isFalse happlied =>
      have happlying : { s.hear l with description := text, mode := .applyingText } =
          { s with description := text, mode := .applyingText }.hear l := rfl
      rw [applyDescriptionWith_eq_concluded hparse happlied,
        applyDescriptionWith_eq_concluded (s := s.hear l) hparse happlied, happlying,
        applyFramework_hear, concluded_heard]

theorem applyDescription_hear (s : Session) (text : String) :
    (s.hear l).applyDescription text =
      heard l (eventsOf (s.applyDescription text).2) (s.applyDescription text) :=
  applyDescriptionWith_hear l s text _

/-! ### Imports -/

theorem foldl_restoreNode_hear (nodes : List Project.Node) (s : Session) :
    nodes.foldl restoreNode (s.hear l) = (nodes.foldl restoreNode s).hear l := by
  induction nodes generalizing s with
  | nil => rfl
  | cons node nodes ih => exact ih (restoreNode s node)

theorem restore_hear (s : Session) (p : Project) :
    (s.hear l).restore p = (s.restore p).hear l := by
  simp only [restore, foldl_restoreNode_hear]
  cases nonBlank? p.layout <;> rfl

theorem setProjectName_hear (s : Session) (name : String) :
    (s.hear l).setProjectName name = (s.setProjectName name).hear l := by
  simp only [setProjectName, hear]

theorem takeName_hear (s : Session) (p : Project) :
    (s.hear l).takeName p = (s.takeName p).hear l := by
  unfold takeName
  cases nonBlank? (p.metadata.map (·.projectName)) with
  | none => rfl
  | some name => exact setProjectName_hear l s name

theorem takeDescription_hear (s : Session) (p : Project) :
    (s.hear l).takeDescription p =
      heard l (eventsOf (s.takeDescription p).2) (s.takeDescription p) := by
  unfold takeDescription
  cases nonBlank? p.description with
  | none => exact (heard_nil l (s, _)).symm
  | some text => exact applyDescription_hear l s text

theorem importProject_hear (s : Session) (p : Project) :
    (s.hear l).importProject p = heard l (eventsOf (s.importProject p).2) (s.importProject p) := by
  unfold importProject
  rw [takeName_hear, takeDescription_hear]
  generalize (s.takeName p).takeDescription p = r
  obtain ⟨t, applied⟩ := r
  cases applied with
  | error e => rfl
  | ok outcome => exact congrArg (·, Except.ok outcome) (restore_hear _ t p)

theorem importText_hear (s : Session) (content : String) (format : FileFormat) :
    (s.hear l).importText content format =
      heard l (eventsOf (s.importText content format).2) (s.importText content format) := by
  cases format with
  | description =>
    rw [importText, importText]
    exact applyDescription_hear l s content
  | project =>
    rw [importText, importText]
    cases Project.ofText content with
    | error e => exact (heard_nil l (s, _)).symm
    | ok p => exact importProject_hear l s p

theorem importFrom_hear (s : Session) (path : String) (read : Except Error String) :
    (s.hear l).importFrom path read =
      heard l (eventsOf (s.importFrom path read).2) (s.importFrom path read) := by
  unfold importFrom
  cases FileFormat.ofPath path with
  | error e => exact (heard_nil l (s, _)).symm
  | ok format =>
    cases read with
    | error e => exact (heard_nil l (s, _)).symm
    | ok content =>
      simp only [importRead, importContent, show (s.hear l).reset = s.reset.hear l from rfl]
      cases Path.stem? path with
      | none => exact importText_hear l s.reset content format
      | some stem =>
        simp only [setProjectName_hear]
        exact importText_hear l _ content format

/-! ### Results -/

theorem moveArgument_hear (s : Session) (id : String) (position : Position) :
    (s.hear l).moveArgument id position =
      ((s.moveArgument id position).1.hear l, (s.moveArgument id position).2) := by
  unfold moveArgument
  cases hc : s.graph.contains id with
  | true => simp only [show (s.hear l).graph = s.graph from rfl, hc, if_true]; rfl
  | false => simp only [show (s.hear l).graph = s.graph from rfl, hc, Bool.false_eq_true, if_false]

theorem selectLabeling_hear (s : Session) (list : ResultList) (row : Nat) :
    (s.hear l).selectLabeling list row =
      ((s.selectLabeling list row).1.hear l, (s.selectLabeling list row).2) := by
  unfold selectLabeling
  simp only [show (s.hear l).graph = s.graph from rfl, show (s.hear l).overlay = s.overlay from rfl]
  cases s.overlay.select s.graph list row <;> rfl

theorem computeLabelings_hear (s : Session) (service : Service) (semantics : Option String) :
    (s.hear l).computeLabelings service semantics =
      ((s.computeLabelings service semantics).1.hear l,
        (s.computeLabelings service semantics).2) := by
  unfold computeLabelings
  simp only [show (s.hear l).extensionRequest semantics = s.extensionRequest semantics from rfl]
  split <;> rfl

theorem computeStrengths_hear (s : Session) (service : Service) (params : Option GradualParams) :
    (s.hear l).computeStrengths service params =
      ((s.computeStrengths service params).1.hear l, (s.computeStrengths service params).2) := by
  unfold computeStrengths
  simp only [show (s.hear l).gradualRequest params = s.gradualRequest params from rfl]
  split <;> rfl

theorem filterLabelings_hear (s : Session) (service : Service) (constraints : String) :
    (s.hear l).filterLabelings service constraints =
      ((s.filterLabelings service constraints).1.hear l,
        (s.filterLabelings service constraints).2) := by
  unfold filterLabelings
  simp only [show (s.hear l).filterRequest constraints = s.filterRequest constraints from rfl]
  split <;> rfl

/-! ### Operations -/

theorem telling_heard {r : Session × Except Error Outcome} :
    telling (heard l (eventsOf r.2) r) = heard l (succeeded (telling r).2) (telling r) := rfl

theorem silent_heard {α : Type} (r : Session × Except Error α) :
    silent (r.1.hear l, r.2) = heard l (succeeded (silent r).2) (silent r) := by
  obtain ⟨t, x⟩ := r
  cases x <;> exact (heard_nil l (t, _)).symm

/-- With another listener an operation does the same and tells the same. -/
theorem perform_hear (s : Session) {op : Operation} (hop : op.isListening = false) :
    (s.hear l).perform op = heard l (succeeded (s.perform op).2) (s.perform op) := by
  cases op with
  | applyDescription text => rw [perform, perform, applyDescription_hear, telling_heard]
  | applyDescriptionWith text place =>
    rw [perform, perform, applyDescriptionWith_hear, telling_heard]
  | applyReading reading =>
    cases reading with
    | settled text =>
      rw [perform_settled, perform_settled, perform, perform, applyDescription_hear, telling_heard]
    | finished => exact (heard_nil l (s, _)).symm
  | edit e => rw [perform, perform, edit_hear, telling_heard]
  | moveArgument id position => rw [perform, perform, moveArgument_hear, silent_heard]
  | syncText => exact (heard_nil l (s.syncText, _)).symm
  | selectLabeling list row => rw [perform, perform, selectLabeling_hear, silent_heard]
  | applyStrengthText text => exact (heard_nil l ((s.applyStrengthText text).1, _)).symm
  | computeLabelings service semantics =>
    rw [perform, perform, computeLabelings_hear, silent_heard]
  | computeStrengths service params => rw [perform, perform, computeStrengths_hear, silent_heard]
  | filterLabelings service constraints =>
    rw [perform, perform, filterLabelings_hear, silent_heard]
  | resetResults => exact (heard_nil l (s.resetResults, _)).symm
  | resetFiltered => exact (heard_nil l (s.resetFiltered, _)).symm
  | importText content format => rw [perform, perform, importText_hear, telling_heard]
  | importFile path read => rw [perform, perform, importFrom_hear, telling_heard]
  | setProjectName name =>
    rw [perform, perform, setProjectName_hear, succeeded, heard_nil]
  | setLayout layout => exact (heard_nil l (s.setLayout layout, _)).symm
  | listen => cases hop
  | stopListening => cases hop
  | reset => exact (heard_nil l (s.reset, _)).symm

/-- With another listener an operation gives the same reply. -/
theorem reply_hear (s : Session) (op : Operation) : (s.hear l).reply op = s.reply op := by
  cases op with
  | applyDescription text => simp only [reply, applyDescription_hear, heard]
  | applyDescriptionWith text place => simp only [reply, applyDescriptionWith_hear, heard]
  | applyReading reading =>
    cases reading with
    | settled text =>
      rw [reply_settled, reply_settled, reply, reply, applyDescription_hear, heard]
    | finished => rfl
  | edit e => simp only [reply, edit_hear, heard]
  | moveArgument id position => simp only [reply, moveArgument_hear]
  | selectLabeling list row => simp only [reply, selectLabeling_hear]
  | computeLabelings service semantics => simp only [reply, computeLabelings_hear]
  | computeStrengths service params => simp only [reply, computeStrengths_hear]
  | filterLabelings service constraints => simp only [reply, filterLabelings_hear]
  | importText content format => simp only [reply, importText_hear, heard]
  | importFile path read => simp only [reply, importFrom_hear, heard]
  | _ => rfl

end Hear

/-! ## Runs -/

/-- What a listener receives from an operation are the events of its success. -/
theorem listener_perform (s : Session) {op : Operation} (hop : op.isListening = false) :
    (s.perform op).1.listener = s.listener.heard (succeeded (s.perform op).2) :=
  congrArg (·.1.listener) (perform_hear s.listener s hop)

theorem exists_perform_hear (s : Session) (l : Listener) {op : Operation}
    (hop : op.isListening = true) : ∃ l', ((s.hear l).perform op).1 = s.hear l' := by
  cases op with
  | listen => exact ⟨.attached [], rfl⟩
  | stopListening =>
    cases l with
    | absent => exact ⟨.absent, rfl⟩
    | attached received => exact ⟨.gone, rfl⟩
    | gone => exact ⟨.gone, rfl⟩
  | _ => cases hop

/-- A run in which listeners come and go reaches the session that is reached without them, but for
the listener, and gives the same replies. -/
theorem exists_run_hear (s : Session) (l : Listener) (ops : List Operation) :
    (∃ l', (s.hear l).run ops = (s.run (ops.filter (!·.isListening))).hear l') ∧
      (s.hear l).replies ops = s.replies (ops.filter (!·.isListening)) := by
  induction ops generalizing s l with
  | nil => exact ⟨⟨l, rfl⟩, rfl⟩
  | cons op ops ih =>
    rw [List.filter_cons, replies, run]
    cases hop : op.isListening with
    | true =>
      obtain ⟨l', hl'⟩ := exists_perform_hear s l hop
      rw [hl']
      exact ih s l'
    | false =>
      rw [perform_hear l s hop, reply_hear]
      obtain ⟨hrun, hreplies⟩ := ih (s.perform op).1 (l.heard (succeeded (s.perform op).2))
      refine ⟨hrun, ?_⟩
      simp only [Bool.not_false, if_true, Bool.false_eq_true, if_false, heard, replies, hop]
      rw [hreplies]

end Session

end Argumentation
