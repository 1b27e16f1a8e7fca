import Argumentation.Proofs.Graph.Mirror
import Argumentation.Proofs.Session.Agreement
import Argumentation.Proofs.Session.Listening

/-!
# What a listener receives

A listener that is attached to a session receives the events of everything that succeeds, in
order.  Unless a new project is started, they lead from the mirror of the graph to which the
listener was attached to the mirror of the graph that there is now: nothing is told that cannot
have happened, and nothing that comes or goes is left untold.

What one operation tells leads from mirror to mirror (`Agrees.mirrored_perform`), and so does what
a run tells (`Agrees.mirrored_run`).  To start a new project removes everything without an event,
so it is left out.

Main statement: `run_logs`.
-/

namespace Argumentation.Session

open Argumentation.Graph

variable {config : Config} {n : Nat} {s t : Session}

/-! ## Logs -/

/-- The events of everything that succeeds, in order. -/
def log (s : Session) : List Operation → List Event
  | [] => []
  | op :: ops => succeeded (s.perform op).2 ++ (s.perform op).1.log ops

/-- Whether an operation may start a new project. -/
def Operation.startsAnew : Operation → Bool
  | .reset => true
  | .importFile .. => true
  | _ => false

/-- A listener that stays receives the log. -/
theorem listener_run {received : List Event} (hs : s.listener = .attached received)
    {ops : List Operation} (hops : ∀ op ∈ ops, op.isListening = false) :
    (s.run ops).listener = .attached (received ++ s.log ops) := by
  induction ops generalizing s received with
  | nil => rw [log, List.append_nil]; exact hs
  | cons op ops ih =>
    have hstep : (s.perform op).1.listener = .attached (received ++ succeeded (s.perform op).2) := by
      rw [listener_perform s (hops op List.mem_cons_self), hs, Listener.heard_attached]
    rw [run, log, ← List.append_assoc]
    exact ih hstep fun other h => hops other (List.mem_cons_of_mem _ h)

/-! ## Single operations -/

theorem mirror_dispatch (s : Session) (es : List Event) :
    (s.dispatch es).graph.mirror = s.graph.mirror := by
  unfold dispatch
  split
  · rfl
  · cases s.mode with
    | idle => exact mirror_of_content (Overlay.content_clearResults s.graph)
    | applyingText => rfl
    | applyingGraph => rfl

theorem mirror_of_core (h : t.core = s.core) : t.graph.mirror = s.graph.mirror :=
  mirror_of_content (congrArg (·.graph) h)

/-- Whether the events of a result lead to its graph, as long as the counter has numbers left for
the relations that come. -/
def Leads (s : Session) (n : Nat) (r : Session × Except Error (List Event)) : Prop :=
  n + told r.2 ≤ lastNumber → Mirrored s.graph (succeeded r.2) r.1.graph

theorem leads_of_mirror {r : Except Error (List Event)}
    (h : t.graph.mirror = s.graph.mirror) (hr : succeeded r = []) : s.Leads n (t, r) := by
  intro _
  rw [hr]
  exact .nil h

theorem leads_of_core {r : Except Error (List Event)} (h : t.core = s.core)
    (hr : succeeded r = []) : s.Leads n (t, r) := leads_of_mirror (mirror_of_core h) hr

theorem succeeded_silent {α : Type} (r : Session × Except Error α) :
    succeeded (silent r).2 = [] := by
  obtain ⟨t, x⟩ := r
  cases x <;> rfl

/-- Nothing is told of places, results, names and listeners. -/
theorem leads_aside (s : Session) {op : Operation} (hop : op.isAside = true) :
    s.Leads n (s.perform op) := by
  refine leads_of_core (core_perform s hop) ?_
  cases op with
  | moveArgument id position => exact succeeded_silent _
  | selectLabeling list row => exact succeeded_silent _
  | computeLabelings service semantics => exact succeeded_silent _
  | computeStrengths service params => exact succeeded_silent _
  | filterLabelings service constraints => exact succeeded_silent _
  | applyStrengthText text => rfl
  | resetResults => rfl
  | resetFiltered => rfl
  | setProjectName name => rfl
  | setLayout layout => rfl
  | listen => rfl
  | stopListening => rfl
  | _ => cases hop

theorem Leads.of_start {r : Session × Except Error (List Event)} (leads : t.Leads n r)
    (h : t.graph.mirror = s.graph.mirror) : s.Leads n r := by
  intro room
  rw [Mirrored, ← h]
  exact leads room

theorem mirror_restore (s : Session) (p : Project) :
    (s.restore p).graph.mirror = s.graph.mirror :=
  mirror_of_core (s := { s with graph := s.graph.reseed }) (core_restore s p)

namespace Agrees

theorem leads_edit (agrees : Agrees config n s) (e : Edit) : s.Leads n (telling (s.edit e)) := by
  cases happly : e.apply s.config.limits s.graph with
  | error err =>
    rw [edit_of_error happly]
    exact leads_of_core rfl rfl
  | ok r =>
    obtain ⟨g, es⟩ := r
    have hmirrored := Edit.mirrored_apply agrees.sound happly
    rw [edit_of_ok happly]
    intro _
    change Mirrored s.graph es ({ s with graph := g }.dispatch es).graph
    rw [Mirrored, mirror_dispatch]
    exact hmirrored

theorem leads_applyDescriptionWith (agrees : Agrees config n s) (text : String)
    (place : Reconcile.Placement) (hpos : 1 ≤ n) :
    s.Leads n (telling (s.applyDescriptionWith text place)) := by
  cases hparse : Description.parse s.config.limits text with
  | error e =>
    rw [applyDescriptionWith_of_error hparse]
    exact leads_of_core rfl rfl
  | ok f =>
    cases decEq s.lastApplied (some (Text.trim text)) with
    | isTrue happlied =>
      rw [applyDescriptionWith_of_applied hparse happlied]
      exact leads_of_mirror rfl rfl
    | isFalse happlied =>
      have hcontent := Overlay.content_clearResults s.graph
      have sound := agrees.sound.of_content hcontent
      have hnext : (Overlay.clearResults s.graph).counter.next.toNat ≤ n := agrees.next_le
      obtain ⟨es, hes, -⟩ :=
        Reconcile.reconcile_ok sound (Description.parse_meets hparse).toProper place
      obtain ⟨listener, features, hresult⟩ := applyDescriptionWith_of_reconciled hparse happlied hes
      rw [hresult]
      intro room
      have hmirrored := Reconcile.mirrored_reconcile sound hpos hnext hes room
      rw [Mirrored, mirror_of_content hcontent] at hmirrored
      exact hmirrored

theorem leads_applyDescription (agrees : Agrees config n s) (text : String) (hpos : 1 ≤ n) :
    s.Leads n (telling (s.applyDescription text)) := agrees.leads_applyDescriptionWith text _ hpos

theorem leads_importProject (agrees : Agrees config n s) (p : Project) (hpos : 1 ≤ n) :
    s.Leads n (telling (s.importProject p)) := by
  have hnamed : (s.takeName p).Leads n (telling ((s.takeName p).takeDescription p)) := by
    unfold takeDescription
    cases nonBlank? p.description with
    | none => exact leads_of_core rfl rfl
    | some text => exact (agrees.takeName p).leads_applyDescription text hpos
  have hleads := hnamed.of_start (mirror_of_core (core_takeName s p))
  unfold Session.importProject
  generalize (s.takeName p).takeDescription p = r at hleads ⊢
  obtain ⟨t, applied⟩ := r
  cases applied with
  | error e => exact hleads
  | ok outcome =>
    intro room
    change Mirrored s.graph outcome.events (t.restore p).graph
    rw [Mirrored, mirror_restore]
    exact hleads room

theorem leads_importText (agrees : Agrees config n s) (content : String) (format : FileFormat)
    (hpos : 1 ≤ n) : s.Leads n (telling (s.importText content format)) := by
  cases format with
  | description =>
    rw [importText]
    exact agrees.leads_applyDescription content hpos
  | project =>
    rw [importText]
    cases Project.ofText content with
    | error e => exact leads_of_core rfl rfl
    | ok p => exact agrees.leads_importProject p hpos

/-- What an operation tells leads from the mirror of the graph before it to the mirror of the graph
after it. -/
theorem leads_perform (agrees : Agrees config n s) {op : Operation}
    (hop : op.startsAnew = false) (hpos : 1 ≤ n) : s.Leads n (s.perform op) := by
  cases haside : op.isAside with
  | true => exact leads_aside s haside
  | false =>
    cases op with
    | applyDescription text =>
      rw [perform]
      exact agrees.leads_applyDescription text hpos
    | applyDescriptionWith text place =>
      rw [perform]
      exact agrees.leads_applyDescriptionWith text place hpos
    | applyReading reading =>
      cases reading with
      | settled text =>
        rw [perform_settled, perform]
        exact agrees.leads_applyDescription text hpos
      | finished => exact leads_of_core rfl rfl
    | edit e =>
      rw [perform]
      exact agrees.leads_edit e
    | syncText => exact leads_of_mirror (mirror_of_content (Overlay.content_clearResults s.graph)) rfl
    | importText content format =>
      rw [perform]
      exact agrees.leads_importText content format hpos
    | importFile path read => cases hop
    | reset => cases hop
    | _ => cases haside

/-- What a run tells leads to the mirror of the graph that it reaches. -/
theorem mirrored_run (agrees : Agrees config n s) (hpos : 1 ≤ n) {ops : List Operation}
    (hops : ∀ op ∈ ops, op.startsAnew = false) (room : n + s.drawnBy ops ≤ lastNumber) :
    Mirrored s.graph (s.log ops) (s.run ops).graph := by
  induction ops generalizing n s with
  | nil => exact .nil rfl
  | cons op ops ih =>
    rw [drawnBy, ← Nat.add_assoc] at room
    have hroom : n + s.drawn op ≤ lastNumber := Nat.le_of_add_right_le room
    have hfirst := agrees.leads_perform (hops op List.mem_cons_self) hpos hroom
    have hrest := ih (agrees.kept_perform op hpos hroom) (Nat.le_add_right_of_le hpos)
      (fun other h => hops other (List.mem_cons_of_mem _ h)) room
    exact hfirst.trans hrest

end Agrees

/-- While no listener comes or goes and no new project is started, the listener that was attached
has received the events of all that succeeded, in order, and they lead from the mirror of the graph
then to the mirror of the graph now.

Listeners that come and go change neither the session otherwise nor any reply. -/
theorem run_logs (config : Config) (before ops : List Operation)
    (room : (new config).drawnBy (before ++ .listen :: ops) < lastNumber)
    (lasting : ∀ op ∈ ops, op.isListening = false)
    (continuing : ∀ op ∈ ops, op.startsAnew = false) :
    let s := (new config).run (before ++ [.listen])
    (∀ past, past <+: ops →
      (s.run past).listener = .attached (s.log past) ∧
      s.graph.mirror.replay? (s.log past) = some (s.run past).graph.mirror) ∧
    ∀ (t : Session) (l : Listener) (all : List Operation),
      ((t.hear l).run all).hear .absent =
        (t.run (all.filter (!·.isListening))).hear .absent ∧
      (t.hear l).replies all = t.replies (all.filter (!·.isListening)) := by
  intro s
  constructor
  · rintro past ⟨future, rfl⟩
    have hops : before ++ .listen :: (past ++ future) = (before ++ [.listen]) ++ past ++ future := by
      simp
    rw [hops, drawnBy_append, drawnBy_append] at room
    change (new config).drawnBy (before ++ [.listen]) + s.drawnBy past + _ < lastNumber at room
    have hlisten : s.listener = .attached [] := by
      rw [show s = ((new config).run before).run [.listen] from run_append _ _ _]
      rfl
    have hpast {op : Operation} (h : op ∈ past) : op ∈ past ++ future := List.mem_append_left _ h
    have agrees : Agrees config _ s := run_agrees config (before ++ [.listen]) (by omega)
    refine ⟨listener_run hlisten fun op h => lasting op (hpast h), ?_⟩
    exact agrees.mirrored_run (Nat.le_add_right 1 _) (fun op h => continuing op (hpast h)) (by omega)
  · intro t l all
    obtain ⟨⟨l', hrun⟩, hreplies⟩ := exists_run_hear t l all
    rw [hrun, hear_hear]
    exact ⟨rfl, hreplies⟩

/-- A listener hears of an attack, of a new name and of a description that says something else, but
not of an argument that is refused. -/
theorem run_logs_renamed :
    let before : List Operation := [.edit (.addArgument "A" none none ⟨0, 0⟩)]
    let ops : List Operation := [.edit (.addRelation ⟨.attack, "a", "a"⟩ none),
      .edit (.editArgument "a" "B" (some 1) none), .edit (.addArgument "b" none none ⟨0, 0⟩),
      .applyDescription "arg(c)."]
    let s := (new {}).run (before ++ [.listen])
    ((new {}).drawnBy (before ++ .listen :: ops) < lastNumber ∧
      (∀ op ∈ ops, op.isListening = false) ∧ ∀ op ∈ ops, op.startsAnew = false) ∧
    (s.run ops).listener = .attached [.relationAdded ⟨1⟩, .argumentRenamed "a" "b",
      .relationMoved ⟨1⟩, .argumentUpdated "b", .relationRemoved ⟨1⟩, .argumentRemoved "b",
      .argumentAdded "c"] ∧
    s.graph.mirror.replay? (s.log ops) = some ⟨{"c"}, ∅⟩ := by
  intro before ops s
  have room : (new {}).drawnBy (before ++ .listen :: ops) < lastNumber := by decide +kernel
  have lasting : ∀ op ∈ ops, op.isListening = false := by
    simp [ops, Operation.isListening]
  have continuing : ∀ op ∈ ops, op.startsAnew = false := by
    simp [ops, Operation.startsAnew]
  obtain ⟨hlistener, hreplay⟩ :=
    (run_logs {} before ops room lasting continuing).1 ops List.prefix_rfl
  have hlog : s.log ops = [.relationAdded ⟨1⟩, .argumentRenamed "a" "b", .relationMoved ⟨1⟩,
      .argumentUpdated "b", .relationRemoved ⟨1⟩, .argumentRemoved "b", .argumentAdded "c"] := by
    decide +kernel
  have hmirror : (s.run ops).graph.mirror = ⟨{"c"}, ∅⟩ := by decide +kernel
  exact ⟨⟨room, lasting, continuing⟩, hlog ▸ hlistener, hmirror ▸ hreplay⟩

end Argumentation.Session
