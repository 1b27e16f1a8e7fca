import Argumentation.Proofs.Graph.Target
import Argumentation.Proofs.Graph.Within
import Argumentation.Proofs.Session.Showing

/-!
# Description and graph say the same

The description of a session is written in three ways: as it was applied, as it was applied
when it differs from the last one in surrounding blanks only, and as the canonical text of the
graph.  The graph is changed by descriptions, by edits, by what a project document adds and by
results that are shown.

`Agrees` is what all of this keeps: the description is accepted and says the same as the graph,
and what was applied last is the description without surrounding blanks.  Each operation keeps
it (`Agrees.perform`), whether it succeeds or fails, and so does a run (`Agrees.run`).

Main statement: `run_says_graph`.
-/

namespace Argumentation

/-- Whether a text is accepted and says what a graph says. -/
def Graph.SaidBy (limits : Limits) (text : String) (g : Graph) : Prop :=
  ∃ f, Description.parse limits text = .ok f ∧ f.sameStructure g.framework = true

namespace Session

/-- A session whose description and graph say the same, and whose counter has come no further
than a bound. -/
structure Agrees (config : Config) (n : Nat) (s : Session) : Prop where
  /-- The settings stay. -/
  config_eq : s.config = config
  /-- The graph is sound. -/
  sound : s.graph.Sound
  /-- The counter keeps to the bound. -/
  next_le : s.graph.counter.next.toNat ≤ n
  /-- Nothing is under way. -/
  idle : s.mode = .idle
  /-- The description says what the graph says. -/
  said : s.graph.SaidBy config.limits s.description
  /-- What was applied last is the description. -/
  applied : ∀ text, s.lastApplied = some text → text = Text.trim s.description

/-- A session without results, listener and names. -/
def core (s : Session) : Session where
  config := s.config
  graph := s.graph.content
  description := s.description
  lastApplied := s.lastApplied
  mode := s.mode
  projectName := ""
  layout := ""

/-- Whether a result is a session whose description and graph say the same, as long as the
counter has numbers left for the relations that come. -/
def Kept (config : Config) (n : Nat) (r : Session × Except Error (List Event)) : Prop :=
  n + Graph.told r.2 ≤ Graph.lastNumber → Agrees config (n + Graph.told r.2) r.1

variable {config : Config} {n : Nat} {s s' : Session}

/-! ## New sessions -/

theorem saidBy_empty (limits : Limits) : Graph.SaidBy limits "" {} := ⟨{}, rfl, rfl⟩

theorem agrees_new (config : Config) : Agrees config 1 (new config) where
  config_eq := rfl
  sound := Graph.sound_empty
  next_le := Nat.le_refl 1
  idle := rfl
  said := saidBy_empty config.limits
  applied := nofun

namespace Agrees

theorem mono (agrees : Agrees config n s) {m : Nat} (h : n ≤ m) : Agrees config m s :=
  { agrees with next_le := Nat.le_trans agrees.next_le h }

theorem reset (agrees : Agrees config n s) : Agrees config 1 s.reset where
  config_eq := agrees.config_eq
  sound := Graph.sound_empty
  next_le := Nat.le_refl 1
  idle := rfl
  said := saidBy_empty config.limits
  applied := nofun

theorem within (agrees : Agrees config n s) : s.graph.store.Within config.limits := by
  obtain ⟨f, hparse, hsame⟩ := agrees.said
  exact agrees.sound.within_of_sameStructure (Description.parse_meets hparse) hsame

theorem kept (agrees : Agrees config n s) (r : Except Error (List Event)) :
    Kept config n (s, r) := fun _ => agrees.mono (Nat.le_add_right n _)

theorem kept_telling (agrees : Agrees config n s) (r : Except Error Outcome) :
    Kept config n (telling (s, r)) := agrees.kept _

/-- Results, listeners and names do not count. -/
theorem of_core (agrees : Agrees config n s) (heq : s'.core = s.core) : Agrees config n s' := by
  simp only [core, mk.injEq] at heq
  obtain ⟨hconfig, hgraph, hdescription, happlied, -, hmode, -⟩ := heq
  constructor
  case config_eq => rw [hconfig, agrees.config_eq]
  case sound => exact agrees.sound.of_content hgraph
  case next_le =>
    rw [Graph.counter_of_content hgraph]
    exact agrees.next_le
  case idle => rw [hmode, agrees.idle]
  case said =>
    rw [Graph.SaidBy, hdescription, Graph.framework_of_content hgraph]
    exact agrees.said
  case applied =>
    rw [happlied, hdescription]
    exact agrees.applied

end Agrees

/-! ## Results, names and listeners -/

/-- Results do not count. -/
theorem core_of_resetResults (h : s'.resetResults = s.resetResults) : s'.core = s.core := by
  have hcore (t : Session) : t.resetResults.core = t.core := by
    simp only [core, resetResults, Overlay.content_clearResults]
  rw [← hcore s', h, hcore s]

theorem core_stopListening (s : Session) : s.stopListening.core = s.core := by
  unfold stopListening
  split <;> rfl

theorem core_moveArgument (s : Session) (id : String) (position : Position) :
    (s.moveArgument id position).1.core = s.core := by
  unfold moveArgument
  split
  · have hcontent := Graph.content_modifyArgument s.graph id
      (f := fun a => { a with position }) (fun _ => rfl) fun _ => rfl
    simp only [core, hcontent]
  · rfl

theorem core_setProjectName (s : Session) (name : String) :
    (s.setProjectName name).core = s.core := by
  simp only [core, setProjectName]

theorem core_takeName (s : Session) (p : Project) : (s.takeName p).core = s.core := by
  unfold takeName
  cases nonBlank? (p.metadata.map (·.projectName)) with
  | none => rfl
  | some name => exact core_setProjectName s name

/-- Whether an operation is only about places, results, names or listeners. -/
def Operation.isAside : Operation → Bool
  | .moveArgument .. => true
  | .selectLabeling .. => true
  | .applyStrengthText .. => true
  | .computeLabelings .. => true
  | .computeStrengths .. => true
  | .filterLabelings .. => true
  | .resetResults => true
  | .resetFiltered => true
  | .setProjectName .. => true
  | .setLayout .. => true
  | .listen => true
  | .stopListening => true
  | _ => false

theorem core_perform (s : Session) {op : Operation} (hop : op.isAside = true) :
    (s.perform op).1.core = s.core := by
  cases hshowing : op.isShowing with
  | true => exact core_of_resetResults (resetResults_perform s hshowing)
  | false =>
    cases op with
    | moveArgument id position => exact core_moveArgument s id position
    | setProjectName name => exact core_setProjectName s name
    | setLayout layout => rfl
    | listen => rfl
    | stopListening => exact core_stopListening s
    | _ => cases hop <;> cases hshowing

/-! ## From the graph to the description -/

theorem agrees_syncText (hconfig : s.config = config) (sound : s.graph.Sound)
    (within : s.graph.store.Within config.limits) (hnext : s.graph.counter.next.toNat ≤ n) :
    Agrees config n s.syncText := by
  have hcontent := Overlay.content_clearResults s.graph
  have hsound : (Overlay.clearResults s.graph).Sound := sound.of_content hcontent
  have hparse : Description.parse config.limits (Overlay.clearResults s.graph).toText =
      .ok (Overlay.clearResults s.graph).framework :=
    hsound.parse_toText (by rwa [Graph.store_of_content hcontent])
  constructor
  case config_eq => exact hconfig
  case sound => exact hsound
  case next_le => exact hnext
  case idle => rfl
  case said => exact ⟨_, hparse, (Description.parse_meets hparse).sameStructure_self⟩
  case applied => exact fun text h => (Option.some.inj h).symm

/-- An edit brings the description up to what the graph then says. -/
theorem Agrees.kept_edit (agrees : Agrees config n s) (e : Edit) (hpos : 1 ≤ n) :
    Kept config n (telling (s.edit e)) := by
  cases happly : e.apply s.config.limits s.graph with
  | error err =>
    rw [edit_of_error happly]
    exact agrees.kept _
  | ok r =>
    obtain ⟨g, es⟩ := r
    rw [edit_of_ok happly]
    rw [agrees.config_eq] at happly
    intro room
    change n + relationsAdded es ≤ Graph.lastNumber at room
    change Agrees config (n + relationsAdded es) ({ s with graph := g }.dispatch es)
    cases es with
    | nil =>
      rw [Edit.apply_nil happly]
      exact agrees
    | cons d ds =>
      have haccepted : ¬ e.Refused config.limits s.graph := by
        intro hrefused
        obtain ⟨err, herr⟩ := Edit.apply_refused agrees.sound hrefused
        rw [herr] at happly
        cases happly
      obtain ⟨g', es', hok, hstore⟩ := Edit.apply_accepted agrees.sound haccepted
      rw [happly] at hok
      cases hok
      obtain ⟨fs, changes, hfs⟩ := Edit.changes_apply happly
      rw [← hfs] at room ⊢
      obtain ⟨hsound, hnext⟩ := changes.within agrees.sound hpos agrees.next_le room
      have hwithin : g.store.Within config.limits := by
        rw [hstore]
        exact Edit.within_effect agrees.sound agrees.within haccepted
      have hdispatch := dispatch_of_idle (s := { s with graph := g }) agrees.idle d ds
      rw [hdispatch]
      exact agrees_syncText agrees.config_eq hsound hwithin hnext

/-! ## From the description to the graph -/

section Apply

variable {text : String} {f : Framework} {place : Reconcile.Placement}

/-- The graph is reconciled with an accepted description without refusal, and as long as the
counter has numbers left the target is reached. -/
theorem Agrees.reconcile_eq (agrees : Agrees config n s)
    (accepted : Description.parse config.limits text = .ok f) (place : Reconcile.Placement) :
    let g := Overlay.clearResults s.graph
    ∃ es, (g.reconcile f place).outcome = .ok es ∧
      relationsAdded es = g.drawn (.reconcile f place) ∧
      (n + relationsAdded es ≤ Graph.lastNumber →
        (g.reconcile f place).graph = (Reconcile.target g f place).reseed) := by
  intro g
  have proper := (Description.parse_meets accepted).toProper
  have sound : g.Sound := agrees.sound.of_content (Overlay.content_clearResults s.graph)
  have hnext : g.counter.next.toNat ≤ n := agrees.next_le
  obtain ⟨es, hes, hdrawn⟩ := Reconcile.reconcile_ok sound proper place
  refine ⟨es, hes, hdrawn, fun room => ?_⟩
  obtain ⟨es', heq⟩ := Reconcile.reconcile_eq sound proper place (by omega)
  rw [heq]

/-- A description that differs from the one applied last in surrounding blanks only says the
same. -/
theorem Agrees.described (agrees : Agrees config n s) {text : String}
    (happlied : s.lastApplied = some (Text.trim text)) :
    Agrees config n { s with description := text } := by
  have htrim : Text.trim text = Text.trim s.description := agrees.applied _ happlied
  obtain ⟨f, hparse, hsame⟩ := agrees.said
  have hsaid : Description.parse config.limits text = .ok f := by
    rw [← Description.parse_trim, htrim, Description.parse_trim, hparse]
  exact { agrees with
    said := ⟨f, hsaid, hsame⟩
    applied := fun t ht => (agrees.applied t ht).trans htrim.symm }

/-- A description that is applied changes the graph to what the description says. -/
theorem Agrees.kept_applyDescriptionWith (agrees : Agrees config n s) (text : String)
    (place : Reconcile.Placement) (hpos : 1 ≤ n) :
    Kept config n (telling (s.applyDescriptionWith text place)) := by
  cases hparse : Description.parse s.config.limits text with
  | error e =>
    rw [applyDescriptionWith_of_error hparse]
    exact agrees.kept _
  | ok f =>
    have hlimits : Description.parse config.limits text = .ok f := by
      rw [← agrees.config_eq]
      exact hparse
    cases decEq s.lastApplied (some (Text.trim text)) with
    | isTrue happlied =>
      rw [applyDescriptionWith_of_applied hparse happlied]
      exact (agrees.described happlied).kept _
    | isFalse happlied =>
      have meets := Description.parse_meets hlimits
      have hcontent := Overlay.content_clearResults s.graph
      have sound : (Overlay.clearResults s.graph).Sound := agrees.sound.of_content hcontent
      have hnext : (Overlay.clearResults s.graph).counter.next.toNat ≤ n := agrees.next_le
      obtain ⟨es, hes, hdrawn, htarget⟩ := agrees.reconcile_eq hlimits place
      obtain ⟨listener, features, hresult⟩ := applyDescriptionWith_of_reconciled hparse happlied hes
      rw [hresult]
      intro room
      change n + relationsAdded es ≤ Graph.lastNumber at room
      obtain ⟨ds, changes, hds⟩ := Graph.changes_reconcile (Overlay.clearResults s.graph) f place
      have hadded : relationsAdded ds = relationsAdded es := hds.trans hdrawn.symm
      obtain ⟨hsound, hcounter⟩ := changes.within sound hpos hnext (by omega)
      have hreached : ((Overlay.clearResults s.graph).reconcile f place).graph.framework.sameStructure
          f = true := by
        rw [htarget room] at hsound ⊢
        exact Reconcile.sameStructure_target sound meets.toProper meets.weighed hsound
      constructor
      case config_eq => exact agrees.config_eq
      case sound => exact hsound
      case next_le =>
        rw [hadded] at hcounter
        exact hcounter
      case idle => rfl
      case said =>
        exact ⟨f, hlimits, Framework.sameStructure_symm hsound.distinct_framework meets.toDistinct
          hreached⟩
      case applied => exact fun t ht => (Option.some.inj ht).symm

theorem Agrees.kept_applyDescription (agrees : Agrees config n s) (text : String)
    (hpos : 1 ≤ n) : Kept config n (telling (s.applyDescription text)) :=
  agrees.kept_applyDescriptionWith text _ hpos

end Apply

/-! ## Imports -/

theorem core_restoreNode (s : Session) (node : Project.Node) :
    (restoreNode s node).core = s.core := by
  have hcontent := Graph.content_modifyArgument s.graph node.id
    (f := fun a => { a with
      description := node.description.or a.description
      position := node.position.getD a.position }) (fun _ => rfl) fun _ => rfl
  simp only [core, restoreNode, hcontent]

theorem core_foldl_restoreNode (nodes : List Project.Node) (s : Session) :
    (nodes.foldl restoreNode s).core = s.core := by
  induction nodes generalizing s with
  | nil => rfl
  | cons node nodes ih => rw [List.foldl_cons, ih, core_restoreNode]

/-- What a project document adds leaves only the counter to be set. -/
theorem core_restore (s : Session) (p : Project) :
    (s.restore p).core = { s with graph := s.graph.reseed }.core := by
  have hreseed (t : Session) (h : t.core = s.core) :
      { t with graph := t.graph.reseed }.core = { s with graph := s.graph.reseed }.core :=
    congrArg (fun c => { c with graph := c.graph.reseed }) h
  have hnodes := core_foldl_restoreNode p.nodes s
  unfold restore
  cases nonBlank? p.layout with
  | none => exact hreseed _ hnodes
  | some layout => exact hreseed ((p.nodes.foldl restoreNode s).setLayout layout) hnodes

namespace Agrees

theorem reseed (agrees : Agrees config n s) (hpos : 1 ≤ n) :
    Agrees config n { s with graph := s.graph.reseed } where
  config_eq := agrees.config_eq
  sound := agrees.sound.reseed
  next_le := Nat.le_trans agrees.sound.next_reseed_le (Nat.max_le.2 ⟨hpos, agrees.next_le⟩)
  idle := agrees.idle
  said := agrees.said
  applied := agrees.applied

theorem setProjectName (agrees : Agrees config n s) (name : String) :
    Agrees config n (s.setProjectName name) := agrees.of_core (core_setProjectName s name)

/-- What a project document adds is not what the graph says. -/
theorem restore (agrees : Agrees config n s) (hpos : 1 ≤ n) (p : Project) :
    Agrees config n (s.restore p) := (agrees.reseed hpos).of_core (core_restore s p)

theorem takeName (agrees : Agrees config n s) (p : Project) :
    Agrees config n (s.takeName p) := agrees.of_core (core_takeName s p)

theorem kept_takeDescription (agrees : Agrees config n s) (p : Project) (hpos : 1 ≤ n) :
    Kept config n (telling (s.takeDescription p)) := by
  unfold takeDescription
  cases nonBlank? p.description with
  | none => exact agrees.kept_telling _
  | some text => exact agrees.kept_applyDescription text hpos

theorem kept_importProject (agrees : Agrees config n s) (p : Project) (hpos : 1 ≤ n) :
    Kept config n (telling (s.importProject p)) := by
  have hkept := (agrees.takeName p).kept_takeDescription p hpos
  unfold Session.importProject
  generalize (s.takeName p).takeDescription p = r at hkept ⊢
  obtain ⟨t, applied⟩ := r
  cases applied with
  | error e => exact hkept
  | ok outcome => exact fun room => (hkept room).restore (Nat.le_add_right_of_le hpos) p

theorem kept_importText (agrees : Agrees config n s) (content : String) (format : FileFormat)
    (hpos : 1 ≤ n) : Kept config n (telling (s.importText content format)) := by
  cases format with
  | description =>
    rw [importText]
    exact agrees.kept_applyDescription content hpos
  | project =>
    rw [importText]
    cases Project.ofText content with
    | error e => exact agrees.kept _
    | ok p => exact agrees.kept_importProject p hpos

/-- A file starts a new project, so all that counts is what comes with it. -/
theorem kept_importFrom (agrees : Agrees config n s) (path : String) (read : Except Error String)
    (hpos : 1 ≤ n) : Kept config n (telling (s.importFrom path read)) := by
  unfold Session.importFrom
  cases FileFormat.ofPath path with
  | error e => exact agrees.kept _
  | ok format =>
    cases read with
    | error e => exact agrees.kept _
    | ok content =>
      have hreset : Agrees config n s.reset := agrees.reset.mono hpos
      simp only [importRead, importContent]
      cases Path.stem? path with
      | none => exact hreset.kept_importText content format hpos
      | some stem => exact (hreset.setProjectName stem).kept_importText content format hpos

/-! ## Runs -/

/-- Each operation keeps the agreement, whether it succeeds or fails. -/
theorem kept_perform (agrees : Agrees config n s) (op : Operation) (hpos : 1 ≤ n) :
    Kept config n (s.perform op) := by
  cases haside : op.isAside with
  | true => exact (agrees.of_core (core_perform s haside)).kept _
  | false =>
    cases op with
    | applyDescription text =>
      rw [perform]
      exact agrees.kept_applyDescription text hpos
    | applyDescriptionWith text place =>
      rw [perform]
      exact agrees.kept_applyDescriptionWith text place hpos
    | applyReading reading =>
      cases reading with
      | settled text =>
        rw [perform_settled, perform]
        exact agrees.kept_applyDescription text hpos
      | finished => exact agrees.kept _
    | edit e =>
      rw [perform]
      exact agrees.kept_edit e hpos
    | syncText =>
      exact (agrees_syncText agrees.config_eq agrees.sound agrees.within agrees.next_le).kept _
    | importText content format =>
      rw [perform]
      exact agrees.kept_importText content format hpos
    | importFile path read =>
      rw [perform]
      exact agrees.kept_importFrom path read hpos
    | reset => exact (agrees.reset.mono hpos).kept _
    | _ => cases haside

theorem run (agrees : Agrees config n s) (hpos : 1 ≤ n) (ops : List Operation)
    (room : n + s.drawnBy ops ≤ Graph.lastNumber) :
    Agrees config (n + s.drawnBy ops) (s.run ops) := by
  induction ops generalizing n s with
  | nil => exact agrees
  | cons op ops ih =>
    rw [drawnBy, ← Nat.add_assoc] at room ⊢
    have hstep : Agrees config (n + s.drawn op) (s.perform op).1 :=
      agrees.kept_perform op hpos (Nat.le_of_add_right_le room)
    exact ih hstep (Nat.le_add_right_of_le hpos) room

/-- What every operation keeps, a run keeps. -/
theorem run_keeps {P : Session → Prop}
    (step : ∀ {n s} op, Agrees config n s → 1 ≤ n → n + s.drawn op ≤ Graph.lastNumber → P s →
      P (s.perform op).1)
    (agrees : Agrees config n s) (hpos : 1 ≤ n) (h : P s) (ops : List Operation)
    (room : n + s.drawnBy ops ≤ Graph.lastNumber) : P (s.run ops) := by
  induction ops generalizing n s with
  | nil => exact h
  | cons op ops ih =>
    rw [drawnBy, ← Nat.add_assoc] at room
    have hroom : n + s.drawn op ≤ Graph.lastNumber := Nat.le_of_add_right_le room
    exact ih (agrees.kept_perform op hpos hroom) (Nat.le_add_right_of_le hpos)
      (step op agrees hpos hroom h) room

end Agrees

theorem run_agrees (config : Config) (ops : List Operation)
    (room : (new config).drawnBy ops < Graph.lastNumber) :
    Agrees config (1 + (new config).drawnBy ops) ((new config).run ops) :=
  (agrees_new config).run (Nat.le_refl 1) ops (by omega)

/-- The description of every session that is reached is accepted and says what the graph
says. -/
theorem run_says_graph (config : Config) (ops : List Operation)
    (room : (new config).drawnBy ops < Graph.lastNumber) :
    let s := (new config).run ops
    ∃ f, s.checkDescription s.description = .ok f ∧ f.sameStructure s.graph.framework = true := by
  intro s
  have agrees : Agrees config _ s := run_agrees config ops room
  obtain ⟨f, hparse, hsame⟩ := agrees.said
  refine ⟨f, ?_, hsame⟩
  rw [checkDescription, agrees.config_eq, hparse]
  rfl

/-- An argument is added, its description is applied with blanks around it, and an attack is
added. -/
theorem run_says_graph_blanks :
    (new {}).drawnBy [.edit (.addArgument "A" (some 1) none ⟨0, 0⟩),
      .applyDescription " arg(a,1).\n", .edit (.addRelation ⟨.attack, "a", "A"⟩ none)] <
        Graph.lastNumber ∧
    let s := (new {}).run [.edit (.addArgument "A" (some 1) none ⟨0, 0⟩),
      .applyDescription " arg(a,1).\n", .edit (.addRelation ⟨.attack, "a", "A"⟩ none)]
    ∃ f, s.checkDescription s.description = .ok f ∧
      f.sameStructure s.graph.framework = true := by
  have room : (new {}).drawnBy [.edit (.addArgument "A" (some 1) none ⟨0, 0⟩),
      .applyDescription " arg(a,1).\n", .edit (.addRelation ⟨.attack, "a", "A"⟩ none)] <
        Graph.lastNumber := by
    decide +kernel
  exact ⟨room, run_says_graph {} _ room⟩

end Session

end Argumentation
