import Argumentation.Proofs.Graph.Repeated
import Argumentation.Proofs.Session.Agreement

/-!
# Descriptions that are applied again

A description that differs from the one applied last in surrounding blanks only is kept, but the
graph is not reconciled with it.  Nothing is lost by that: the graph says what the description
says, and a reconciliation with a framework that says the same takes no step that changes anything
(`reconcile_of_sameStructure`).

So all that a reconciliation would do besides is to discard the results that are shown, and to set
the counter behind the greatest number.

Main statement: `run_reapplied`.
-/

namespace Argumentation

open Argumentation.Graph

/-! ## Descriptions that are applied again -/

namespace Session

variable {config : Config} {n : Nat} {s : Session} {text : String} {f : Framework}

/-- Any text that differs from the description in surrounding blanks only says what the graph
says. -/
theorem Agrees.sameStructure_of_applied (agrees : Agrees config n s)
    (accepted : Description.parse config.limits text = .ok f)
    (happlied : s.lastApplied = some (Text.trim text)) :
    s.graph.framework.sameStructure f = true := by
  obtain ⟨f', hparse, hsame⟩ := agrees.said
  have htrim : Text.trim text = Text.trim s.description := agrees.applied _ happlied
  rw [← Description.parse_trim, htrim, Description.parse_trim, hparse] at accepted
  cases accepted
  exact Framework.sameStructure_symm (Description.parse_meets hparse).toDistinct
    agrees.sound.distinct_framework hsame

/-- The session without results, and with its counter behind the greatest number. -/
def cleaned (s : Session) : Session :=
  { s.resetResults with graph := s.resetResults.graph.reseed }

theorem features_cleaned (s : Session) : s.cleaned.graph.features = s.graph.features := by
  simp only [Graph.features, cleaned, resetResults, Graph.reseed, Overlay.clearResults,
    Graph.mapArguments, Graph.arguments, List.map_map, List.any_map]
  rfl

/-- To apply a description as if another had been applied before leaves the session clean. -/
theorem Agrees.reapplied_eq (agrees : Agrees config n s)
    (accepted : Description.parse config.limits text = .ok f)
    (happlied : s.lastApplied = some (Text.trim text)) (place : Reconcile.Placement) :
    { s with lastApplied := none }.applyDescriptionWith text place =
      ((s.applyDescriptionWith text place).1.cleaned, (s.applyDescriptionWith text place).2) := by
  have hcontent := Overlay.content_clearResults s.graph
  have hsame := agrees.sameStructure_of_applied accepted happlied
  rw [← Graph.framework_of_content hcontent] at hsame
  have heq := Reconcile.reconcile_of_sameStructure (agrees.sound.of_content hcontent)
    (Description.parse_meets accepted).toProper hsame place
  rw [← agrees.config_eq] at accepted
  rw [applyDescriptionWith_of_applied accepted happlied]
  simp only [applyDescriptionWith, checkDescription, accepted, Except.mapError, applyFramework,
    resetResults, heq, reduceCtorEq, if_false, dispatch, if_true]
  have hfeatures := features_cleaned { s with description := text }
  simp only [cleaned, resetResults] at hfeatures ⊢
  simp only [outcome, hfeatures, ← happlied, ← agrees.idle]

/-- A description of which only the surrounding blanks are new is no reason to reconcile: a
reconciliation would tell nothing, place nothing, and leave all arguments and relations as they are
and where they are.  It would only discard results and set the counter. -/
theorem run_reapplied (config : Config) (ops : List Operation)
    (room : (new config).drawnBy ops < Graph.lastNumber) (text : String) (f : Framework)
    (accepted : Description.parse config.limits text = .ok f)
    (applied : ((new config).run ops).lastApplied = some (Text.trim text))
    (place : Reconcile.Placement) :
    let s := (new config).run ops
    let r := s.graph.reconcile f place
    let skipped := s.applyDescriptionWith text place
    let performed := { s with lastApplied := none }.applyDescriptionWith text place
    r.outcome = .ok [] ∧ r.placed = [] ∧ r.graph.nodes = s.graph.nodes ∧
      r.graph.relations = s.graph.relations ∧
      skipped.1.graph = s.graph ∧ performed = (skipped.1.cleaned, skipped.2) := by
  have agrees := run_agrees config ops room
  generalize (new config).run ops = s at agrees applied ⊢
  have heq := Reconcile.reconcile_of_sameStructure agrees.sound
    (Description.parse_meets accepted).toProper (agrees.sameStructure_of_applied accepted applied)
    place
  have hskipped : (s.applyDescriptionWith text place).1.graph = s.graph := by
    rw [applyDescriptionWith_of_applied (agrees.config_eq.symm ▸ accepted) applied]
  exact ⟨congrArg (·.outcome) heq, congrArg (·.placed) heq, congrArg (·.graph.nodes) heq,
    congrArg (·.graph.relations) heq, hskipped, agrees.reapplied_eq accepted applied place⟩

/-- The text that two edits have left is applied again with blanks around it. -/
theorem run_reapplied_canonical :
    let ops : List Operation := [.edit (.addArgument "A" (some 1) none ⟨0, 0⟩),
      .edit (.addRelation ⟨.attack, "a", "a"⟩ none)]
    let text := "\t arg(a,1).\natt(a,a).\n"
    let f : Framework := ⟨[("a", some 1)], [(("a", "a"), none)], []⟩
    let s := (new {}).run ops
    ((new {}).drawnBy ops < Graph.lastNumber ∧ Description.parse {} text = .ok f ∧
      s.lastApplied = some (Text.trim text)) ∧
    (s.graph.reconcile f fun n _ => gridPosition n).outcome = .ok [] ∧
    s.graph.framework = f := by
  intro ops text f s
  have room : (new {}).drawnBy ops < Graph.lastNumber := by decide +kernel
  have accepted : Description.parse {} text = .ok f := by decide +kernel
  have applied : s.lastApplied = some (Text.trim text) := by decide +kernel
  have reached : s.graph.framework = f := by decide +kernel
  exact ⟨⟨room, accepted, applied⟩, (run_reapplied {} ops room text f accepted applied _).1, reached⟩

end Session

end Argumentation
