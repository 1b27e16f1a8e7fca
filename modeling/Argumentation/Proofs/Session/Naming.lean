import Argumentation.Proofs.Session.Imports
import Argumentation.Proofs.Session.Steps

/-!
# Names of projects

A project has the standard name, or one that is not blank and has no blanks around it.  Only two
steps name it: `setProjectName`, which a document that is imported uses as well, and a new project.
All others leave the settings and the name as they are (`label`).

Main statement: `named_run`.
-/

namespace Argumentation.Session

variable {config : Config} {s s' : Session}

/-- The settings and the name of the project. -/
def label (s : Session) : Config × String := (s.config, s.projectName)

/-- A session whose project has the standard name, or one without blanks around it. -/
structure Named (config : Config) (s : Session) : Prop where
  /-- The settings stay. -/
  config_eq : s.config = config
  /-- The name is the standard one, or it has been trimmed and something was left. -/
  name : s.projectName = config.defaults.projectName ∨
    (Text.trim s.projectName = s.projectName ∧ s.projectName ≠ "")

/-! ## What names no project -/

theorem label_of_resetResults (h : s'.resetResults = s.resetResults) : s'.label = s.label := by
  have hlabel : s'.resetResults.label = s.resetResults.label := congrArg label h
  exact hlabel

theorem label_dispatch (s : Session) (es : List Event) : (s.dispatch es).label = s.label := by
  unfold dispatch
  split
  · rfl
  · dsimp only
    split <;> rfl

theorem label_edit (s : Session) (e : Edit) : (s.edit e).1.label = s.label := by
  unfold Session.edit
  split
  · rfl
  · exact label_dispatch _ _

theorem label_applyDescriptionWith (s : Session) (text : String) (place : Reconcile.Placement) :
    (s.applyDescriptionWith text place).1.label = s.label := by
  obtain heq | heq | ⟨f, lastApplied, listener, -, heq⟩ := applyDescriptionWith_steps s text place
  · rw [heq]
  · rw [heq]
    rfl
  · rw [heq]
    rfl

theorem label_moveArgument (s : Session) (id : String) (position : Position) :
    (s.moveArgument id position).1.label = s.label := by
  unfold moveArgument
  split <;> rfl

theorem label_foldl_restoreNode (nodes : List Project.Node) (s : Session) :
    (nodes.foldl restoreNode s).label = s.label := by
  induction nodes generalizing s with
  | nil => rfl
  | cons node nodes ih => exact ih (restoreNode s node)

theorem label_restore (s : Session) (p : Project) : (s.restore p).label = s.label := by
  unfold restore
  dsimp only
  split
  · exact label_foldl_restoreNode p.nodes s
  · exact label_foldl_restoreNode p.nodes s

/-! ## What names a project -/

namespace Named

theorem of_label (named : Named config s) (h : s'.label = s.label) : Named config s' := by
  simp only [label, Prod.mk.injEq] at h
  constructor
  · rw [h.1, named.config_eq]
  · rw [h.2]
    exact named.name

theorem reset (named : Named config s) : Named config s.reset :=
  ⟨named.config_eq, Or.inl (congrArg (·.defaults.projectName) named.config_eq)⟩

theorem setProjectName (named : Named config s) (name : String) :
    Named config (s.setProjectName name) := by
  by_cases hblank : Text.trim name = ""
  · simp only [Session.setProjectName, if_pos hblank]
    exact ⟨named.config_eq, Or.inl (congrArg (·.defaults.projectName) named.config_eq)⟩
  · rw [setProjectName_of_ne hblank]
    exact ⟨named.config_eq, Or.inr ⟨Text.trim_trim name, hblank⟩⟩

end Named

/-- Each step keeps the name in order. -/
theorem stable_named (config : Config) : Stable (fun _ => True) (Named config) where
  reset named := named.reset
  applied {s} named text place := named.of_label (label_applyDescriptionWith s text place)
  edited {s} named e := named.of_label (label_edit s e)
  moved {s} named id position := named.of_label (label_moveArgument s id position)
  synced named := named.of_label rfl
  heard named _ := named.of_label rfl
  named named name := named.setProjectName name
  laidOut named _ := named.of_label rfl
  restored named _ _ := named.of_label rfl
  reseeded named := named.of_label rfl

theorem named_run (config : Config) (ops : List Operation) :
    Named config ((new config).run ops) := by
  have hnew : Named config (new config) := ⟨rfl, Or.inl rfl⟩
  exact (stable_named config).run (fun h named => named.of_label (label_of_resetResults h))
    (fun _ _ _ _ => trivial) hnew

end Argumentation.Session
