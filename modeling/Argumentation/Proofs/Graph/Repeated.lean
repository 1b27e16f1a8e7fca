import Argumentation.Proofs.Graph.Store
import Argumentation.Proofs.Graph.Target

/-!
# Reconciliations that are repeated

A reconciliation with a framework that says what the graph says takes no step that changes
anything: no argument and no relation has to go, and every step that puts one finds it there with
an equal weight (`reconcile_of_sameStructure`).  Weights are compared as numbers, so a zero stays
negative when the framework has the positive one.

As a reconciliation ends with a graph that says what the framework says, and with the counter
behind the greatest number, to repeat it does nothing (`reconcile_again`).
-/

namespace Argumentation

open Argumentation.Graph

/-! ## Reconciliations that change nothing -/

namespace Reconcile

variable {place : Placement} {p : Progress} {g : Graph} {f : Framework}

/-- Steps that change nothing are taken without a trace. -/
theorem run_of_idle {ss : List Step} (h : ∀ s ∈ ss, s.run place p = .ok p) :
    run place p ss = (p, none) := by
  induction ss with
  | nil => rfl
  | cons s ss ih =>
    rw [run, h s List.mem_cons_self]
    exact ih fun t ht => h t (List.mem_cons_of_mem _ ht)

theorem runRows_cons_of_idle {row : Graph → List Step} (rs : List (Graph → List Step))
    (h : ∀ s ∈ row p.graph, s.run place p = .ok p) :
    runRows place p (row :: rs) = runRows place p rs := by
  simp only [runRows, run_of_idle h]

theorem Step.run_putArgument_of_eq (place : Placement) (sound : p.graph.Sound) {id : String}
    {v w : Option Binary64} (hv : p.graph.store.arguments id = some v)
    (heq : Binary64.optionEq v w = true) : Step.run place p (.putArgument id w) = .ok p := by
  have hid : id ∈ p.graph.keys := by
    by_contra hnot
    rw [sound.store_arguments_eq_none_iff.2 hnot] at hv
    cases hv
  have hcanonical := sound.canonical_eq hid
  obtain ⟨n, hfind, hn, hkey⟩ := exists_node_of_mem (hcanonical.symm ▸ hid)
  rw [hcanonical] at hkey
  rw [← hkey, sound.store_arguments_of_mem hn, Option.some_inj] at hv
  rw [Step.run_putArgument_of_mem place w (hcanonical.symm ▸ hid), setArgumentWeight_of_find hfind,
    if_pos (by rwa [hv])]
  exact congrArg (fun es => Except.ok (Progress.mk p.graph es p.placed)) (List.append_nil p.events)

theorem Step.run_putRelation_of_eq (place : Placement) (sound : p.graph.Sound) {r : Relation}
    (hr : r ∈ p.graph.relations) {w : Option Binary64}
    (heq : Binary64.optionEq r.weight w = true) :
    Step.run place p (.putRelation r.key w) = .ok p := by
  rw [Step.run_putRelation_of_some place w (sound.findRelation?_eq_some_iff.2 ⟨r, hr, rfl, rfl⟩),
    setRelationWeight_of_some (sound.relation?_eq_some_iff.2 ⟨hr, rfl⟩), if_pos heq]
  exact congrArg (fun es => Except.ok (Progress.mk p.graph es p.placed)) (List.append_nil p.events)

theorem dropArguments_eq_nil (sound : g.Sound)
    (same : ∀ id, Option.Rel (fun v w => Binary64.optionEq v w = true) (g.argumentEntries.get? id)
      (f.arguments.get? id)) : dropArguments f g = [] := by
  rw [dropArguments, List.map_eq_nil_iff, List.filter_eq_nil_iff, sound.map_id_arguments]
  intro id hid
  rw [← sound.keys_argumentEntries] at hid
  rw [Framework.containsArgument_iff.2 ((Assoc.mem_keys_iff_of_rel (same id)).1 hid)]
  exact Bool.false_ne_true

theorem dropRelations_eq_nil
    (same : ∀ key, Option.Rel (fun v w => Binary64.optionEq v w = true)
      (g.relationEntries.get? key) (f.relations.get? key)) : dropRelations f g = [] := by
  rw [dropRelations, List.map_eq_nil_iff, List.filter_eq_nil_iff]
  intro r hr
  have hkey : r.key ∈ g.relationEntries.keys := by
    rw [keys_relationEntries]
    exact List.mem_map_of_mem hr
  rw [Framework.containsRelation_iff.2 ((Assoc.mem_keys_iff_of_rel (same r.key)).1 hkey)]
  exact Bool.false_ne_true

/-- A graph that says what a framework says stays as it is, but for its counter. -/
theorem reconcile_of_sameStructure (sound : g.Sound) (proper : f.Proper)
    (same : g.framework.sameStructure f = true) (place : Placement) :
    g.reconcile f place = ⟨g.reseed, [], .ok []⟩ := by
  rw [sound.sameStructure_framework_iff proper.toDistinct] at same
  obtain ⟨harguments, hrelations⟩ := same
  have hputArguments : ∀ s ∈ putArguments f g, s.run place { graph := g } = .ok { graph := g } := by
    intro s hs
    obtain ⟨⟨id, w⟩, he, rfl⟩ := List.mem_map.1 hs
    obtain ⟨v, hv, heq⟩ := Assoc.exists_of_rel_right proper.arguments he (harguments id)
    exact Step.run_putArgument_of_eq place sound hv heq
  have hputRelations : ∀ s ∈ putRelations f g, s.run place { graph := g } = .ok { graph := g } := by
    intro s hs
    obtain ⟨⟨key, w⟩, he, rfl⟩ := List.mem_map.1 hs
    obtain ⟨v, hv, heq⟩ := Assoc.exists_of_rel_right proper.relations he (hrelations key)
    obtain ⟨r, hr, rfl, rfl⟩ := mem_relationEntries_iff.1 (Assoc.mem_of_get? hv)
    exact Step.run_putRelation_of_eq place sound hr heq
  have hrows : runRows place { graph := g } (rows f) = ({ graph := g }, none) := by
    rw [rows, runRows_cons_of_idle _ (by simp [dropArguments_eq_nil sound harguments]),
      runRows_cons_of_idle _ (by simp [dropRelations_eq_nil hrelations]),
      runRows_cons_of_idle _ hputArguments, runRows_cons_of_idle _ hputRelations]
    rfl
  simp only [Graph.reconcile, undeclaredEnd?_eq_none proper, hrows]

end Reconcile

namespace Graph

theorem reseed_reseed (g : Graph) : g.reseed.reseed = g.reseed := rfl

/-- A reconciliation with a framework that the graph has just been reconciled with tells nothing,
places nothing and changes nothing, however its arguments would be placed. -/
theorem reconcile_again (limits : Limits) (text : String) (f : Framework)
    (accepted : Description.parse limits text = .ok f) (ops : List Operation)
    (place again : Reconcile.Placement)
    (room : drawnBy {} (ops ++ [.reconcile f place]) < lastNumber) :
    let r := (run {} ops).reconcile f place
    (∃ events, r.outcome = .ok events) ∧
      r.graph.reconcile f again = ⟨r.graph, [], .ok []⟩ := by
  have meets := Description.parse_meets accepted
  obtain ⟨sound, reached, n, -, hnext, hroom⟩ := sound_of_room room
  generalize run {} ops = g at sound reached hnext hroom ⊢
  obtain ⟨events, heq⟩ := Reconcile.reconcile_eq sound meets.toProper place (by omega)
  simp only [heq] at reached ⊢
  have hsame := Reconcile.sameStructure_target sound meets.toProper meets.weighed reached
  refine ⟨⟨events, rfl⟩, ?_⟩
  rw [Reconcile.reconcile_of_sameStructure reached meets.toProper hsame, reseed_reseed]

/-- The first reconciliation drops the greatest number and places an argument.  It leaves the
negative zeros as they are, and so does the second one, which places nothing. -/
theorem reconcile_again_zero :
    let text := "arg(C).\narg(a,0).\natt(a,a,0).\nsupport(c,a)."
    let f : Framework :=
      ⟨[("c", none), ("a", some 0)], [(("a", "a"), some 0)], [(("c", "a"), none)]⟩
    let ops : List Operation := [.insertArgument { id := "A", weight := some (-0) },
      .insertArgument { id := "b" }, .insertRelation ⟨.attack, "a", "a"⟩ (some (-0)),
      .insertRelation ⟨.attack, "b", "a"⟩ none, .insertRelation ⟨.attack, "a", "b"⟩ none]
    let place : Reconcile.Placement := fun n _ => gridPosition n
    let r := (run {} ops).reconcile f place
    (Description.parse {} text = .ok f ∧
      drawnBy {} (ops ++ [.reconcile f place]) < lastNumber) ∧
    r.placed = ["c"] ∧ r.graph.argumentEntries = [("a", some (-0)), ("c", none)] ∧
    r.graph.relations.map (·.id) = [⟨1⟩, ⟨4⟩] ∧
    r.graph.reconcile f (fun _ _ => {}) = ⟨r.graph, [], .ok []⟩ := by
  intro text f ops place r
  have accepted : Description.parse {} text = .ok f := by decide +kernel
  have room : drawnBy {} (ops ++ [.reconcile f place]) < lastNumber := by decide +kernel
  have reached : r.placed = ["c"] ∧
      r.graph.argumentEntries = [("a", some (-0)), ("c", none)] ∧
      r.graph.relations.map (·.id) = [⟨1⟩, ⟨4⟩] := by decide +kernel
  exact ⟨⟨accepted, room⟩, reached.1, reached.2.1, reached.2.2,
    (reconcile_again {} text f accepted ops place _ room).2⟩

end Graph

end Argumentation
