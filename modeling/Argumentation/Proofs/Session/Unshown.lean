import Argumentation.Proofs.Graph.Cleared
import Argumentation.Proofs.Session.Listening
import Argumentation.Proofs.Session.Showing

/-!
# Results are not seen by anything else

Two sessions that differ in their results only, the overlay, the strengths and the appearances,
cannot be told apart by anything but the operations that show results: every other operation gives
the same reply and tells the same events, and leaves sessions that differ in their results only
(`perform_resetResults`, `reply_resetResults`).  The session that such a pair is compared with is
the one without results, `resetResults`.

Operations that show results lead from a session to one that differs in its results only.  So they
can be left out of a run (`run_unshown`).

Main statement: `showing_unseen`.
-/

namespace Argumentation

namespace Session

variable {s t : Session}

/-! ## Sessions that differ in results -/

/-- Sessions that differ in nothing but the results that are held and shown. -/
structure SameButResults (s t : Session) : Prop where
  /-- The settings. -/
  config : s.config = t.config
  /-- The identifiers, weights, descriptions and places of the arguments in their order. -/
  arguments : s.graph.arguments.map Argument.clearResults =
    t.graph.arguments.map Argument.clearResults
  /-- What the arguments are found by. -/
  keys : s.graph.keys = t.graph.keys
  /-- The relations with their numbers. -/
  relations : s.graph.relations = t.graph.relations
  /-- The source of the numbers of relations. -/
  counter : s.graph.counter = t.graph.counter
  /-- The description. -/
  description : s.description = t.description
  /-- The description that was applied last. -/
  lastApplied : s.lastApplied = t.lastApplied
  /-- What is under way. -/
  mode : s.mode = t.mode
  /-- Who listens, and what was received. -/
  listener : s.listener = t.listener
  /-- The name of the project. -/
  projectName : s.projectName = t.projectName
  /-- The name of the layout. -/
  layout : s.layout = t.layout

/-- Steps with the same result that lead to sessions which differ in their results only. -/
def SameStep {α : Type} (r r' : Session × α) : Prop := r.2 = r'.2 ∧ r.1.SameButResults r'.1

/-- A step after which all results are discarded. -/
def unshown {α : Type} (r : Session × α) : Session × α := (r.1.resetResults, r.2)

theorem sameButResults_of_resetResults (h : s.resetResults = t.resetResults) :
    s.SameButResults t := by
  simp only [resetResults, mk.injEq] at h
  obtain ⟨hconfig, hgraph, hdescription, happlied, -, hmode, hlistener, hname, hlayout⟩ := h
  constructor
  case arguments =>
    rw [← Overlay.arguments_clearResults, hgraph, Overlay.arguments_clearResults]
  case keys => rw [← Overlay.keys_clearResults, hgraph, Overlay.keys_clearResults]
  case relations =>
    have hrelations := congrArg Graph.relations hgraph
    exact hrelations
  case counter =>
    have hcounter := congrArg Graph.counter hgraph
    exact hcounter
  all_goals assumption

theorem sameStep_of_unshown {α : Type} {r r' : Session × α} (h : unshown r = unshown r') :
    SameStep r r' :=
  ⟨(Prod.mk.inj h).2, sameButResults_of_resetResults (Prod.mk.inj h).1⟩

theorem outcome_resetResults (s : Session) (es : List Event) :
    s.resetResults.outcome es = s.outcome es := by
  have hfeatures : (Overlay.clearResults s.graph).features = s.graph.features := by
    simp only [Graph.features, Overlay.arguments_clearResults, List.any_map]
    rfl
  simp only [outcome, resetResults, hfeatures]

theorem outcome_of_resetResults (h : s.resetResults = t.resetResults) (es : List Event) :
    s.outcome es = t.outcome es := by
  rw [← outcome_resetResults s, h, outcome_resetResults t]

/-! ## Edits -/

theorem syncText_resetResults (s : Session) : s.resetResults.syncText = s.syncText := by
  have hclear := Overlay.clearResults_clearResults s.graph
  simp only [syncText, resetResults, hclear]

theorem dispatch_resetResults (s : Session) (es : List Event) :
    (s.resetResults.dispatch es).resetResults = (s.dispatch es).resetResults := by
  have hmode : s.resetResults.mode = s.mode := rfl
  unfold dispatch
  split
  · exact resetResults_resetResults s
  · simp only [hmode]
    split
    · exact congrArg resetResults (syncText_resetResults { s with listener := s.listener.tell es })
    · exact resetResults_resetResults { s with listener := s.listener.tell es }

/-- An edit does the same whether results are shown or not. -/
theorem edit_resetResults (s : Session) (e : Edit) :
    unshown (s.resetResults.edit e) = unshown (s.edit e) := by
  have hclear := Edit.apply_clearResults s.config.limits s.graph e
  cases happly : e.apply s.config.limits s.graph with
  | error err =>
    rw [happly] at hclear
    rw [edit_of_error happly, edit_of_error (s := s.resetResults) hclear]
    exact congrArg (·, Except.error err) (resetResults_resetResults s)
  | ok r =>
    obtain ⟨g, es⟩ := r
    rw [happly] at hclear
    have hgraph : { s.resetResults with graph := Overlay.clearResults g } =
        { s with graph := g }.resetResults := rfl
    have hdispatch := dispatch_resetResults { s with graph := g } es
    rw [edit_of_ok happly, edit_of_ok (s := s.resetResults) hclear, hgraph, unshown, unshown,
      hdispatch, outcome_of_resetResults hdispatch]

/-! ## Descriptions -/

theorem applyFramework_resetResults (s : Session) (f : Framework) (place : Reconcile.Placement) :
    s.resetResults.applyFramework f place = s.applyFramework f place := by
  simp only [applyFramework, resetResults_resetResults]

theorem applyDescriptionWith_resetResults (s : Session) (text : String)
    (place : Reconcile.Placement) :
    unshown (s.resetResults.applyDescriptionWith text place) =
      unshown (s.applyDescriptionWith text place) := by
  cases hparse : Description.parse s.config.limits text with
  | error ds =>
    rw [applyDescriptionWith_of_error hparse,
      applyDescriptionWith_of_error (s := s.resetResults) hparse]
    exact congrArg (·, Except.error (Error.description ds)) (resetResults_resetResults s)
  | ok f =>
    cases decEq s.lastApplied (some (Text.trim text)) with
    | isTrue happlied =>
      have hreset := resetResults_resetResults { s with description := text }
      have houtcome := outcome_resetResults { s with description := text } []
      rw [applyDescriptionWith_of_applied hparse happlied,
        applyDescriptionWith_of_applied (s := s.resetResults) hparse happlied]
      exact congrArg₂ (fun s outcome => (s, Except.ok outcome)) hreset houtcome
    | isFalse happlied =>
      have happlying : { s.resetResults with description := text, mode := .applyingText } =
          { s with description := text, mode := .applyingText }.resetResults := rfl
      rw [applyDescriptionWith_eq_concluded hparse happlied,
        applyDescriptionWith_eq_concluded (s := s.resetResults) hparse happlied, happlying,
        applyFramework_resetResults]

theorem applyDescription_resetResults (s : Session) (text : String) :
    unshown (s.resetResults.applyDescription text) = unshown (s.applyDescription text) := by
  have hlength : (Overlay.clearResults s.graph).nodes.length = s.graph.nodes.length :=
    List.length_map _
  rw [applyDescription, applyDescription, resetResults, hlength]
  exact applyDescriptionWith_resetResults s text _

/-! ## Imports -/

theorem restoreNode_resetResults (s : Session) (node : Project.Node) :
    restoreNode s.resetResults node = (restoreNode s node).resetResults := by
  have hmodify := Graph.modifyArgument_clearResults s.graph node.id (f := fun a =>
    { a with
      description := node.description.or a.description
      position := node.position.getD a.position }) fun _ => rfl
  simp only [restoreNode, resetResults, hmodify]

theorem foldl_restoreNode_resetResults (nodes : List Project.Node) (s : Session) :
    nodes.foldl restoreNode s.resetResults = (nodes.foldl restoreNode s).resetResults := by
  induction nodes generalizing s with
  | nil => rfl
  | cons node nodes ih => rw [List.foldl_cons, restoreNode_resetResults, ih, List.foldl_cons]

theorem restore_resetResults (s : Session) (p : Project) :
    s.resetResults.restore p = (s.restore p).resetResults := by
  simp only [restore, foldl_restoreNode_resetResults]
  cases nonBlank? p.layout <;> rfl

theorem setProjectName_resetResults (s : Session) (name : String) :
    s.resetResults.setProjectName name = (s.setProjectName name).resetResults := by
  simp only [setProjectName, resetResults]

theorem takeName_resetResults (s : Session) (p : Project) :
    s.resetResults.takeName p = (s.takeName p).resetResults := by
  unfold takeName
  cases nonBlank? (p.metadata.map (·.projectName)) with
  | none => rfl
  | some name => exact setProjectName_resetResults s name

theorem takeDescription_resetResults (s : Session) (p : Project) :
    unshown (s.resetResults.takeDescription p) = unshown (s.takeDescription p) := by
  unfold takeDescription
  cases nonBlank? p.description with
  | none =>
    exact congrArg₂ (fun s outcome => (s, Except.ok outcome)) (resetResults_resetResults s)
      (outcome_resetResults s [])
  | some text => exact applyDescription_resetResults s text

theorem importProject_resetResults (s : Session) (p : Project) :
    unshown (s.resetResults.importProject p) = unshown (s.importProject p) := by
  have htaken := takeDescription_resetResults (s.takeName p) p
  unfold importProject
  rw [takeName_resetResults]
  generalize (s.takeName p).resetResults.takeDescription p = r at htaken ⊢
  generalize (s.takeName p).takeDescription p = r' at htaken ⊢
  obtain ⟨u, applied⟩ := r
  obtain ⟨u', applied'⟩ := r'
  obtain ⟨hsession, rfl⟩ := Prod.mk.inj htaken
  cases applied with
  | error e => exact htaken
  | ok outcome =>
    have hrestore : (u.restore p).resetResults = (u'.restore p).resetResults := by
      rw [← restore_resetResults, ← restore_resetResults]
      exact congrArg (·.restore p) hsession
    exact congrArg (·, Except.ok outcome) hrestore

theorem importText_resetResults (s : Session) (content : String) (format : FileFormat) :
    unshown (s.resetResults.importText content format) = unshown (s.importText content format) := by
  cases format with
  | description =>
    rw [importText, importText]
    exact applyDescription_resetResults s content
  | project =>
    rw [importText, importText]
    cases Project.ofText content with
    | error e => exact congrArg (·, Except.error e) (resetResults_resetResults s)
    | ok p => exact importProject_resetResults s p

/-- A file starts a new project, which has no results. -/
theorem importFrom_resetResults (s : Session) (path : String) (read : Except Error String) :
    unshown (s.resetResults.importFrom path read) = unshown (s.importFrom path read) := by
  unfold importFrom
  cases FileFormat.ofPath path with
  | error e => exact congrArg (·, Except.error e) (resetResults_resetResults s)
  | ok format =>
    cases read with
    | error e => exact congrArg (·, Except.error e) (resetResults_resetResults s)
    | ok content => rfl

/-! ## Operations -/

theorem moveArgument_resetResults (s : Session) (id : String) (position : Position) :
    unshown (s.resetResults.moveArgument id position) = unshown (s.moveArgument id position) := by
  have hmodify := Graph.modifyArgument_clearResults s.graph id (f := fun a =>
    { a with position }) fun _ => rfl
  have hcontains := Graph.contains_clearResults s.graph id
  unfold moveArgument
  simp only [resetResults, hcontains, hmodify]
  split <;> simp only [unshown, resetResults, Overlay.clearResults_clearResults]

theorem stopListening_resetResults (s : Session) :
    s.resetResults.stopListening = s.stopListening.resetResults := by
  unfold stopListening
  have hlistener : s.resetResults.listener = s.listener := rfl
  rw [hlistener]
  split <;> rfl

theorem unshown_telling {r r' : Session × Except Error Outcome} (h : unshown r = unshown r') :
    unshown (telling r) = unshown (telling r') :=
  congrArg (fun r => (r.1, r.2.map (·.events))) h

theorem unshown_silent {α : Type} {r r' : Session × Except Error α} (h : unshown r = unshown r') :
    unshown (silent r) = unshown (silent r') :=
  congrArg (fun r => (r.1, r.2.map fun _ => ([] : List Event))) h

/-- An operation that does not show results does and tells the same whether there are results
or not. -/
theorem perform_resetResults (s : Session) {op : Operation} (hop : op.isShowing = false) :
    unshown (s.resetResults.perform op) = unshown (s.perform op) := by
  have hsilent {u v : Session} (h : u = v) :
      (u.resetResults, (Except.ok [] : Except Error (List Event))) = (v.resetResults, .ok []) :=
    congrArg (fun w => (w.resetResults, Except.ok [])) h
  have hstays (u : Session) :
      (u.resetResults.resetResults, (Except.ok [] : Except Error (List Event))) =
        (u.resetResults, .ok []) :=
    congrArg (·, Except.ok []) (resetResults_resetResults u)
  cases op with
  | applyDescription text => exact unshown_telling (applyDescription_resetResults s text)
  | applyDescriptionWith text place =>
    exact unshown_telling (applyDescriptionWith_resetResults s text place)
  | applyReading reading =>
    cases reading with
    | settled text =>
      rw [perform_settled, perform_settled]
      exact unshown_telling (applyDescription_resetResults s text)
    | finished => exact hstays s
  | edit e => exact unshown_telling (edit_resetResults s e)
  | moveArgument id position => exact unshown_silent (moveArgument_resetResults s id position)
  | syncText => exact hsilent (syncText_resetResults s)
  | importText content format => exact unshown_telling (importText_resetResults s content format)
  | importFile path read => exact unshown_telling (importFrom_resetResults s path read)
  | setProjectName name => exact (hsilent (setProjectName_resetResults s name)).trans (hstays _)
  | setLayout layout => exact hstays (s.setLayout layout)
  | listen => exact hstays s.listen
  | stopListening => exact (hsilent (stopListening_resetResults s)).trans (hstays _)
  | reset => rfl
  | _ => cases hop

theorem reply_resetResults (s : Session) {op : Operation} (hop : op.isShowing = false) :
    s.resetResults.reply op = s.reply op := by
  have hsnd {α : Type} {r r' : Session × α} (h : unshown r = unshown r') : r.2 = r'.2 :=
    (Prod.mk.inj h).2
  cases op with
  | applyDescription text =>
    exact congrArg Reply.outcome (hsnd (applyDescription_resetResults s text))
  | applyDescriptionWith text place =>
    exact congrArg Reply.outcome (hsnd (applyDescriptionWith_resetResults s text place))
  | applyReading reading =>
    cases reading with
    | settled text =>
      rw [reply_settled, reply_settled]
      exact congrArg Reply.outcome (hsnd (applyDescription_resetResults s text))
    | finished => rfl
  | edit e => exact congrArg Reply.outcome (hsnd (edit_resetResults s e))
  | moveArgument id position =>
    exact congrArg Reply.done (hsnd (moveArgument_resetResults s id position))
  | importText content format =>
    exact congrArg Reply.outcome (hsnd (importText_resetResults s content format))
  | importFile path read =>
    exact congrArg Reply.outcome (hsnd (importFrom_resetResults s path read))
  | syncText => rfl
  | setProjectName name => rfl
  | setLayout layout => rfl
  | listen => rfl
  | stopListening => rfl
  | reset => rfl
  | _ => cases hop

/-! ## Runs -/

/-- What comes back from some operations.  Those that show results are passed over. -/
def unshownReplies (s : Session) : List Operation → List Reply
  | [] => []
  | op :: ops =>
    if op.isShowing then (s.perform op).1.unshownReplies ops
    else s.reply op :: (s.perform op).1.unshownReplies ops

theorem unshown_congr {α : Type} {f : Session → Session × α}
    (hf : ∀ s, unshown (f s.resetResults) = unshown (f s))
    (h : s.resetResults = t.resetResults) : unshown (f s) = unshown (f t) := by
  rw [← hf s, h, hf t]

/-- Operations that show results can be left out of a run.  What is reached, and what comes back
from the other operations, does not depend on the results there were before either. -/
theorem run_unshown (h : s.resetResults = t.resetResults) (ops : List Operation) :
    (s.run ops).resetResults = (t.run (ops.filter (!·.isShowing))).resetResults ∧
      s.unshownReplies ops = t.unshownReplies (ops.filter (!·.isShowing)) := by
  induction ops generalizing s t with
  | nil => exact ⟨h, rfl⟩
  | cons op ops ih =>
    rw [List.filter_cons, unshownReplies, run]
    cases hop : op.isShowing with
    | true => exact ih ((resetResults_perform s hop).trans h)
    | false =>
      have hstep : unshown (s.perform op) = unshown (t.perform op) :=
        unshown_congr (f := (·.perform op)) (fun s => perform_resetResults s hop) h
      have hreply : s.reply op = t.reply op := by
        rw [← reply_resetResults s hop, h, reply_resetResults t hop]
      obtain ⟨hrun, hreplies⟩ := ih (Prod.mk.inj hstep).1
      refine ⟨hrun, ?_⟩
      simp only [Bool.not_false, if_true, Bool.false_eq_true, if_false, unshownReplies, hop]
      rw [hreply, hreplies]

/-- To show results, or to discard them, leaves everything else as it is, whatever the service
answers.  A description or an edit that comes afterwards gives what it would have given, and leads
to the same session but for results.  In longer runs, too, operations that show results make no
difference to what the other operations do. -/
theorem showing_unseen (s : Session) {op : Operation} (hop : op.isShowing = true) :
    let t := (s.perform op).1
    t.SameButResults s ∧
      (∀ text, SameStep (t.applyDescription text) (s.applyDescription text)) ∧
      (∀ text place,
        SameStep (t.applyDescriptionWith text place) (s.applyDescriptionWith text place)) ∧
      (∀ e, SameStep (t.edit e) (s.edit e)) ∧
      ∀ ops, (t.run ops).SameButResults (s.run (ops.filter (!·.isShowing))) ∧
        t.unshownReplies ops = s.unshownReplies (ops.filter (!·.isShowing)) := by
  intro t
  have h : t.resetResults = s.resetResults := resetResults_perform s hop
  refine ⟨sameButResults_of_resetResults h, fun text => ?_, fun text place => ?_, fun e => ?_,
    fun ops => ?_⟩
  · exact sameStep_of_unshown
      (unshown_congr (f := (·.applyDescription text)) (applyDescription_resetResults · text) h)
  · exact sameStep_of_unshown (unshown_congr (f := (·.applyDescriptionWith text place))
      (applyDescriptionWith_resetResults · text place) h)
  · exact sameStep_of_unshown (unshown_congr (f := (·.edit e)) (edit_resetResults · e) h)
  · obtain ⟨hrun, hreplies⟩ := run_unshown h ops
    exact ⟨sameButResults_of_resetResults hrun, hreplies⟩

/-- A labeling is selected, by which an argument looks accepted, and that argument is renamed while
somebody listens. -/
theorem showing_unseen_renamed :
    let service := Service.constant (.ok ⟨some (.array [.text "in(a) out(b)"]), none⟩)
    let s := (new {}).run [.applyDescription "arg(a).\narg(b).\natt(a,b).", .listen,
      .computeLabelings service none]
    let t := (s.perform (.selectLabeling .primary 0)).1
    (Operation.selectLabeling .primary 0).isShowing = true ∧
      s.graph.arguments.map (·.appearance) = [.plain, .plain] ∧
      t.graph.arguments.map (·.appearance) = [.accepted, .rejected] ∧ t.SameButResults s ∧
      SameStep (t.edit (.editArgument "a" "C" none none))
        (s.edit (.editArgument "a" "C" none none)) ∧
      (t.edit (.editArgument "a" "C" none none)).1.description = "arg(b).\narg(c).\natt(c,b)." := by
  intro service s t
  obtain ⟨hsame, -, -, hedit, -⟩ := showing_unseen s
    (show (Operation.selectLabeling .primary 0).isShowing = true from rfl)
  have hshown : s.graph.arguments.map (·.appearance) = [.plain, .plain] ∧
      t.graph.arguments.map (·.appearance) = [.accepted, .rejected] := by decide +kernel
  exact ⟨rfl, hshown.1, hshown.2, hsame, hedit _, by decide +kernel⟩

end Session

end Argumentation
