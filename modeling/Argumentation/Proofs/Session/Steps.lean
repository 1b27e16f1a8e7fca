import Argumentation.Proofs.Edit
import Argumentation.Proofs.Graph.Arguments
import Argumentation.Proofs.Session.Showing

/-!
# Steps of operations

An operation that does not show results consists of a few steps: a new project, a description, an
edit, a move, a name and so on, and of what a document says of single arguments.  `Stable` lists
them, with what has to be shown of each for a property to hold of every session that is reached.
`Stable.perform` puts them together, so that imports need not be taken apart again for every
property.

The first property of this kind is `Orderly`: nothing is under way, and every argument is found by
its own identifier.
-/

namespace Argumentation.Session

variable {config : Config} {s s' : Session} {allowed : Project.Node → Prop} {P : Session → Prop}

/-! ## What a step can do -/

/-- An edit changes nothing, or it changes the graph and the description follows. -/
theorem edit_steps (idle : s.mode = .idle) (e : Edit) :
    (s.edit e).1 = s ∨ ∃ g es listener, e.apply s.config.limits s.graph = .ok (g, es) ∧
      (s.edit e).1 = { s with graph := g, listener }.syncText := by
  cases happly : e.apply s.config.limits s.graph with
  | error err => exact .inl (by rw [edit_of_error happly])
  | ok r =>
    obtain ⟨g, es⟩ := r
    rw [edit_of_ok happly]
    cases es with
    | nil =>
      obtain rfl := Edit.apply_nil happly
      exact .inl rfl
    | cons d ds =>
      exact .inr ⟨g, d :: ds, s.listener.tell (d :: ds), rfl,
        dispatch_of_idle (s := { s with graph := g }) idle d ds⟩

/-- A description is refused, or it is kept and the graph stays, or the graph is reconciled with
it, as far as that is possible. -/
theorem applyDescriptionWith_steps (s : Session) (text : String) (place : Reconcile.Placement) :
    (s.applyDescriptionWith text place).1 = s ∨
      (s.applyDescriptionWith text place).1 = { s with description := text } ∨
      ∃ f lastApplied listener, Description.parse s.config.limits text = .ok f ∧
        (s.applyDescriptionWith text place).1 = { s with
          graph := ((Overlay.clearResults s.graph).reconcile f place).graph
          description := text
          overlay := {}
          mode := .idle
          lastApplied, listener } := by
  cases hparse : Description.parse s.config.limits text with
  | error ds => exact .inl (by rw [applyDescriptionWith_of_error hparse])
  | ok f =>
    refine .inr ?_
    cases decEq s.lastApplied (some (Text.trim text)) with
    | isTrue happlied => exact .inl (by rw [applyDescriptionWith_of_applied hparse happlied])
    | isFalse happlied =>
      refine .inr ⟨f, ?_⟩
      cases houtcome : ((Overlay.clearResults s.graph).reconcile f place).outcome with
      | error e =>
        refine ⟨s.lastApplied, s.listener, rfl, ?_⟩
        simp only [applyDescriptionWith, checkDescription, hparse, Except.mapError, happlied,
          if_false, applyFramework, resetResults, houtcome]
      | ok es =>
        obtain ⟨listener, features, heq⟩ :=
          applyDescriptionWith_of_reconciled hparse happlied houtcome
        exact ⟨_, listener, rfl, congrArg Prod.fst heq⟩

/-! ## Documents that are read -/

/-- What a text says of single arguments.  Only a project document says anything. -/
def documentNodes (content : String) : FileFormat → List Project.Node
  | .description => []
  | .project =>
    match Project.ofText content with
    | .ok p => p.nodes
    | .error _ => []

/-- What a file says of single arguments. -/
def fileNodes (path : String) (read : Except Error String) : List Project.Node :=
  match FileFormat.ofPath path, read with
  | .ok format, .ok content => documentNodes content format
  | _, _ => []

/-- What the document that an operation reads says of single arguments. -/
def Operation.nodes : Operation → List Project.Node
  | .importText content format => documentNodes content format
  | .importFile path read => fileNodes path read
  | _ => []

/-! ## Properties that steps keep -/

/-- What has to be shown for a property to be kept by operations that do not show results, if the
documents say of single arguments only what is allowed. -/
structure Stable (allowed : Project.Node → Prop) (P : Session → Prop) : Prop where
  /-- By a new project. -/
  reset : ∀ {s}, P s → P s.reset
  /-- By a description. -/
  applied : ∀ {s}, P s → ∀ text place, P (s.applyDescriptionWith text place).1
  /-- By an edit. -/
  edited : ∀ {s}, P s → ∀ e, P (s.edit e).1
  /-- By a move. -/
  moved : ∀ {s}, P s → ∀ id position, P (s.moveArgument id position).1
  /-- By the canonical text of the graph. -/
  synced : ∀ {s}, P s → P s.syncText
  /-- By another listener. -/
  heard : ∀ {s}, P s → ∀ listener, P { s with listener }
  /-- By a name. -/
  named : ∀ {s}, P s → ∀ name, P (s.setProjectName name)
  /-- By the name of a layout. -/
  laidOut : ∀ {s}, P s → ∀ layout, P (s.setLayout layout)
  /-- By what a document says of an argument. -/
  restored : ∀ {s}, P s → ∀ n, allowed n → P (s.restoreNode n)
  /-- By numbers that are given out from the start again. -/
  reseeded : ∀ {s}, P s → P { s with graph := s.graph.reseed }

namespace Stable

section Operations

variable (stable : Stable allowed P)
include stable

theorem foldl_restoreNode {nodes : List Project.Node} (hnodes : ∀ n ∈ nodes, allowed n)
    (h : P s) : P (nodes.foldl restoreNode s) := by
  induction nodes generalizing s with
  | nil => exact h
  | cons n nodes ih =>
    rw [List.forall_mem_cons] at hnodes
    exact ih hnodes.2 (stable.restored h n hnodes.1)

theorem restore {p : Project} (hnodes : ∀ n ∈ p.nodes, allowed n) (h : P s) : P (s.restore p) := by
  have hrestored := stable.foldl_restoreNode hnodes h
  unfold Session.restore
  dsimp only
  split
  · exact stable.reseeded (stable.laidOut hrestored _)
  · exact stable.reseeded hrestored

theorem takeName (p : Project) (h : P s) : P (s.takeName p) := by
  unfold Session.takeName
  split
  · exact stable.named h _
  · exact h

theorem applyDescription (text : String) (h : P s) : P (s.applyDescription text).1 := by
  rw [Session.applyDescription]
  exact stable.applied h text _

theorem takeDescription (p : Project) (h : P s) : P (s.takeDescription p).1 := by
  unfold Session.takeDescription
  split
  · exact stable.applyDescription _ h
  · exact h

theorem importProject {p : Project} (hnodes : ∀ n ∈ p.nodes, allowed n) (h : P s) :
    P (s.importProject p).1 := by
  have htaken := stable.takeDescription p (stable.takeName p h)
  unfold Session.importProject
  generalize (s.takeName p).takeDescription p = r at htaken ⊢
  obtain ⟨t, e | outcome⟩ := r
  · exact htaken
  · exact stable.restore hnodes htaken

theorem importText {content : String} {format : FileFormat}
    (hnodes : ∀ n ∈ documentNodes content format, allowed n) (h : P s) :
    P (s.importText content format).1 := by
  cases format with
  | description =>
    rw [Session.importText]
    exact stable.applyDescription content h
  | project =>
    rw [documentNodes] at hnodes
    rw [Session.importText]
    cases hread : Project.ofText content with
    | error e => exact h
    | ok p =>
      rw [hread] at hnodes
      exact stable.importProject hnodes h

theorem importFrom {path : String} {read : Except Error String}
    (hnodes : ∀ n ∈ fileNodes path read, allowed n) (h : P s) :
    P (s.importFrom path read).1 := by
  unfold Session.importFrom
  unfold fileNodes at hnodes
  cases hformat : FileFormat.ofPath path with
  | error e => exact h
  | ok format =>
    cases read with
    | error e => exact h
    | ok content =>
      rw [hformat] at hnodes
      simp only [importRead, importContent]
      split
      · exact stable.importText hnodes (stable.named (stable.reset h) _)
      · exact stable.importText hnodes (stable.reset h)

/-- Every operation that does not show results is made of the steps. -/
theorem perform {op : Operation} (hop : op.isShowing = false) (hnodes : ∀ n ∈ op.nodes, allowed n)
    (h : P s) : P (s.perform op).1 := by
  cases op with
  | applyDescription text =>
    rw [Session.perform, telling]
    exact stable.applyDescription text h
  | applyDescriptionWith text place =>
    rw [Session.perform, telling]
    exact stable.applied h text place
  | applyReading reading =>
    cases reading with
    | settled text =>
      rw [perform_settled, Session.perform, telling]
      exact stable.applyDescription text h
    | finished => exact h
  | edit e => exact stable.edited h e
  | moveArgument id position => exact stable.moved h id position
  | syncText => exact stable.synced h
  | importText content format => exact stable.importText hnodes h
  | importFile path read => exact stable.importFrom hnodes h
  | setProjectName name => exact stable.named h name
  | setLayout layout => exact stable.laidOut h layout
  | listen => exact stable.heard h _
  | stopListening =>
    simp only [Session.perform, stopListening]
    split
    · exact stable.heard h _
    · exact h
  | reset => exact stable.reset h
  | _ => cases hop

/-- A property that does not mind results is kept by whole runs. -/
theorem run (unshown : ∀ {s s' : Session}, s'.resetResults = s.resetResults → P s → P s')
    {ops : List Operation} (hnodes : ∀ op ∈ ops, ∀ n ∈ op.nodes, allowed n) (h : P s) :
    P (s.run ops) := by
  induction ops generalizing s with
  | nil => exact h
  | cons op ops ih =>
    rw [List.forall_mem_cons] at hnodes
    cases hop : op.isShowing with
    | true => exact ih hnodes.2 (unshown (resetResults_perform s hop) h)
    | false => exact ih hnodes.2 (stable.perform hop hnodes.1 h)

end Operations

end Stable

/-! ## Orderly sessions -/

/-- A session in which nothing is under way and arguments are found by their identifiers. -/
structure Orderly (config : Config) (s : Session) : Prop where
  /-- The settings stay. -/
  config_eq : s.config = config
  /-- Nothing is under way. -/
  idle : s.mode = .idle
  /-- Every argument is found by its own identifier. -/
  keyed : s.graph.Keyed

theorem orderly_new (config : Config) : Orderly config (new config) := ⟨rfl, rfl, Graph.keyed_empty⟩

namespace Orderly

theorem of_resetResults (h : s'.resetResults = s.resetResults) (orderly : Orderly config s) :
    Orderly config s' := by
  simp only [resetResults, mk.injEq] at h
  obtain ⟨hconfig, hgraph, -, -, -, hmode, -⟩ := h
  have hskeleton (g : Graph) : (Overlay.clearResults g).skeleton = g.skeleton :=
    Graph.skeleton_mapArguments g fun _ => rfl
  refine ⟨hconfig.trans orderly.config_eq, hmode.trans orderly.idle,
    orderly.keyed.of_skeleton_eq ?_⟩
  rw [← hskeleton, hgraph, hskeleton]

theorem syncText (orderly : Orderly config s) : Orderly config s.syncText :=
  ⟨orderly.config_eq, rfl, orderly.keyed.mapArguments fun _ => rfl⟩

theorem modifyArgument (orderly : Orderly config s) (id : String) {f : Argument → Argument}
    (hf : ∀ a, (f a).id = a.id) : Orderly config { s with graph := s.graph.modifyArgument id f } :=
  ⟨orderly.config_eq, orderly.idle, orderly.keyed.modifyArgument id hf⟩

theorem edit (orderly : Orderly config s) (e : Edit) : Orderly config (s.edit e).1 := by
  obtain heq | ⟨g, es, listener, happly, heq⟩ := edit_steps orderly.idle e
  · rwa [heq]
  · obtain ⟨ds, changes, -⟩ := Edit.changes_apply happly
    have hchanged : Orderly config { s with graph := g, listener } :=
      ⟨orderly.config_eq, orderly.idle, changes.keyed orderly.keyed⟩
    rw [heq]
    exact hchanged.syncText

theorem applyDescriptionWith (orderly : Orderly config s) (text : String)
    (place : Reconcile.Placement) : Orderly config (s.applyDescriptionWith text place).1 := by
  obtain heq | heq | ⟨f, lastApplied, listener, -, heq⟩ := applyDescriptionWith_steps s text place
  · rwa [heq]
  · rw [heq]
    exact ⟨orderly.config_eq, orderly.idle, orderly.keyed⟩
  · have hcleared : (Overlay.clearResults s.graph).Keyed :=
      orderly.keyed.mapArguments fun _ => rfl
    obtain ⟨es, changes, -⟩ := Graph.changes_reconcile (Overlay.clearResults s.graph) f place
    rw [heq]
    exact ⟨orderly.config_eq, rfl, changes.keyed hcleared⟩

end Orderly

theorem stable_orderly (config : Config) : Stable (fun _ => True) (Orderly config) where
  reset orderly := ⟨orderly.config_eq, rfl, Graph.keyed_empty⟩
  applied orderly := orderly.applyDescriptionWith
  edited orderly := orderly.edit
  moved {s} orderly id position := by
    unfold moveArgument
    split
    · exact orderly.modifyArgument id fun _ => rfl
    · exact orderly
  synced orderly := orderly.syncText
  heard orderly _ := ⟨orderly.config_eq, orderly.idle, orderly.keyed⟩
  named orderly name := by
    rw [setProjectName]
    exact ⟨orderly.config_eq, orderly.idle, orderly.keyed⟩
  laidOut orderly _ := ⟨orderly.config_eq, orderly.idle, orderly.keyed⟩
  restored orderly n _ := orderly.modifyArgument n.id fun _ => rfl
  reseeded orderly := ⟨orderly.config_eq, orderly.idle, orderly.keyed.of_nodes rfl⟩

/-- In every session that is reached, nothing is under way. -/
theorem run_orderly (config : Config) (ops : List Operation) :
    Orderly config ((new config).run ops) :=
  (stable_orderly config).run Orderly.of_resetResults (fun _ _ _ _ => trivial) (orderly_new config)

end Argumentation.Session
