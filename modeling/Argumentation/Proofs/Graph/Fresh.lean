import Argumentation.Proofs.Graph.Target
import Argumentation.Proofs.Graph.Within

/-!
# Frameworks that fill an empty graph

A reconciliation brings at most as many relations as the framework declares
(`drawn_reconcile_le`).  So in the empty graph, where everything is new, there are numbers enough
for all of them: the arguments come in the order of the framework, and so do the relations, which
are numbered from one (`reconcile_empty`).

Nothing that the framework says is lost or moved thereby.  The graph has the entries of the
framework in their order, and both the framework of a graph and its canonical text are read off
these (`reconcile_lossless`).
-/

namespace Argumentation

open Argumentation.Graph

namespace Reconcile

variable {place : Placement} {p q : Progress} {f : Framework} {limits : Limits}

/-! ## How many relations come -/

/-- Whether a step may bring a relation. -/
def Step.putsRelation : Step → Bool
  | .putRelation .. => true
  | _ => false

theorem relationsAdded_removeArgument {g g' : Graph} {id : String} {es : List Event}
    (h : g.removeArgument id = .ok (g', es)) : relationsAdded es = 0 := by
  obtain ⟨-, -, rfl⟩ := removeArgument_inv h
  refine List.countP_eq_zero.2 fun e he => ?_
  cases List.mem_append.1 he with
  | inl hincident =>
    obtain ⟨id, -, rfl⟩ := List.mem_map.1 hincident
    exact Bool.false_ne_true
  | inr hlast =>
    rw [List.mem_singleton.1 hlast]
    exact Bool.false_ne_true

theorem relationsAdded_removeRelation {g g' : Graph} {id : RelationId} {e : Event}
    (h : g.removeRelation id = .ok (g', e)) : relationsAdded [e] = 0 := by
  obtain ⟨r, -, -, rfl⟩ := removeRelation_inv h
  rfl

theorem relationsAdded_insertArgument {g g' : Graph} {a : Argument} {e : Event}
    (h : g.insertArgument a = .ok (g', e)) : relationsAdded [e] = 0 := by
  obtain ⟨-, -, rfl⟩ := insertArgument_inv h
  rfl

theorem relationsAdded_setArgumentWeight (g : Graph) (id : String) (w : Option Binary64) :
    relationsAdded (g.setArgumentWeight id w).2.toList = 0 := by
  rcases setArgumentWeight_cases g id w with heq | ⟨a, heq⟩
  · rw [heq]
    rfl
  · rw [heq]
    rfl

theorem relationsAdded_setRelationWeight (g : Graph) (id : RelationId) (w : Option Binary64) :
    relationsAdded (g.setRelationWeight id w).2.toList = 0 := by
  rcases setRelationWeight_cases g id w with heq | ⟨r, -, heq⟩
  · rw [heq]
    rfl
  · rw [heq]
    rfl

/-- Only a step that puts a relation may bring one. -/
theorem Step.exists_events {s : Step} (h : s.run place p = .ok q) :
    ∃ es, q.events = p.events ++ es ∧
      relationsAdded es ≤ if s.putsRelation then 1 else 0 := by
  cases Step.done_of_run h with
  | removeArgument hremove => exact ⟨_, rfl, Nat.le_of_eq (relationsAdded_removeArgument hremove)⟩
  | removeRelation hremove => exact ⟨_, rfl, Nat.le_of_eq (relationsAdded_removeRelation hremove)⟩
  | weighArgument => exact ⟨_, rfl, Nat.le_of_eq (relationsAdded_setArgumentWeight p.graph _ _)⟩
  | insertArgument _ hinsert =>
    exact ⟨_, rfl, Nat.le_of_eq (relationsAdded_insertArgument hinsert)⟩
  | weighRelation =>
    refine ⟨_, rfl, ?_⟩
    rw [relationsAdded_setRelationWeight]
    exact Nat.zero_le _
  | insertRelation => exact ⟨_, rfl, Nat.le_refl 1⟩

/-- Steps bring at most as many relations as there are steps that put one. -/
theorem relationsAdded_run_le (place : Placement) (p : Progress) (ss : List Step) :
    relationsAdded (run place p ss).1.events ≤
      relationsAdded p.events + ss.countP (·.putsRelation) := by
  induction ss generalizing p with
  | nil => exact Nat.le_add_right _ _
  | cons s ss ih =>
    cases hs : s.run place p with
    | error e =>
      simp only [run, hs]
      exact Nat.le_add_right _ _
    | ok q =>
      obtain ⟨es, hevents, hle⟩ := Step.exists_events hs
      have hrest := ih q
      rw [hevents, relationsAdded_append] at hrest
      simp only [run, hs, List.countP_cons]
      omega

theorem relationsAdded_runRows_cons (row : Graph → List Step) {rs : List (Graph → List Step)}
    {m n : Nat} (hrow : ∀ g, (row g).countP (·.putsRelation) ≤ m)
    (hrest : ∀ q, relationsAdded (runRows place q rs).1.events ≤ relationsAdded q.events + n)
    (p : Progress) :
    relationsAdded (runRows place p (row :: rs)).1.events ≤ relationsAdded p.events + (m + n) := by
  have hle := relationsAdded_run_le place p (row p.graph)
  have hm := hrow p.graph
  cases hrun : run place p (row p.graph) with
  | mk q e =>
    rw [hrun] at hle
    have hn := hrest q
    cases e with
    | some e =>
      simp only [runRows, hrun] at hle ⊢
      omega
    | none =>
      simp only [runRows, hrun] at hle ⊢
      omega

theorem countP_putsRelation_map {α : Type} {step : α → Step}
    (h : ∀ a, (step a).putsRelation = false) (as : List α) :
    (as.map step).countP (·.putsRelation) ≤ 0 := by
  refine Nat.le_of_eq (List.countP_eq_zero.2 fun s hs => ?_)
  obtain ⟨a, -, rfl⟩ := List.mem_map.1 hs
  rw [h a]
  exact Bool.false_ne_true

/-- A reconciliation brings at most as many relations as the framework declares. -/
theorem drawn_reconcile_le (g : Graph) (f : Framework) (place : Placement) :
    g.drawn (.reconcile f place) ≤ f.relations.length := by
  have hput : ∀ g, (putRelations f g).countP (·.putsRelation) ≤ f.relations.length := fun _ =>
    Nat.le_trans List.countP_le_length (Nat.le_of_eq (List.length_map _))
  have hdone : ∀ q, relationsAdded (runRows place q []).1.events ≤ relationsAdded q.events + 0 :=
    fun _ => Nat.le_refl _
  have hrows := relationsAdded_runRows_cons (putRelations f) hput hdone
  have hrows := relationsAdded_runRows_cons (putArguments f)
    (fun _ => countP_putsRelation_map (fun _ => rfl) _) hrows
  have hrows := relationsAdded_runRows_cons (dropRelations f)
    (fun _ => countP_putsRelation_map (fun _ => rfl) _) hrows
  have hrows := relationsAdded_runRows_cons (dropArguments f)
    (fun _ => countP_putsRelation_map (fun _ => rfl) _) hrows
  have hle := hrows { graph := g }
  have hnone : relationsAdded ({ graph := g } : Progress).events = 0 := rfl
  rw [hnone] at hle
  simp only [drawn]
  split
  · exact Nat.zero_le _
  · exact Nat.le_trans hle (by omega)

/-! ## The empty graph -/

theorem newRelations_empty (f : Framework) : newRelations {} f = f.relations :=
  List.filter_eq_self.2 fun _ _ => rfl

theorem newArguments_empty (f : Framework) : newArguments {} f = f.arguments :=
  List.filter_eq_self.2 fun _ _ => rfl

/-- In an empty graph every argument is new. -/
theorem arguments_target_empty (f : Framework) (place : Placement) :
    (target {} f place).arguments = f.arguments.mapIdx fun i e =>
      { id := e.1, weight := e.2, position := place i e.1 } := by
  rw [arguments_target sound_empty, newArguments_empty]
  rfl

/-- In an empty graph the relations are numbered from one in the order of the framework. -/
theorem relations_target_empty (f : Framework) (place : Placement) :
    (target {} f place).relations =
      f.relations.mapIdx fun i e => newLink (1 + UInt64.ofNat i) e := by
  rw [target, newRelations_empty]
  rfl

theorem toNat_number_newLink {i : Nat} (h : i < lastNumber)
    (e : RelationKey × Option Binary64) :
    (newLink (1 + UInt64.ofNat i) e).id.number.toNat = i + 1 := by
  have hlast : lastNumber + 1 = UInt64.size := by decide
  have hsize : 1 + i < UInt64.size := by omega
  have hone : (1 : UInt64) = UInt64.ofNat 1 := rfl
  rw [newLink, hone, ← UInt64.ofNat_add, UInt64.toNat_ofNat_of_lt' hsize, Nat.add_comm]

theorem argumentEntries_target_empty (f : Framework) (place : Placement) :
    (target {} f place).argumentEntries = f.arguments := by
  rw [argumentEntries, arguments_target_empty]
  exact Eq.trans (b := f.arguments.map id) (map_mapIdx_of_eq fun _ _ => rfl) (List.map_id _)

theorem relationEntries_target_empty (f : Framework) (place : Placement) :
    (target {} f place).relationEntries = f.relations := by
  rw [relationEntries, relations_target_empty]
  exact Eq.trans (b := f.relations.map id) (map_mapIdx_of_eq fun _ _ => rfl) (List.map_id _)

/-- The relations that fill an empty graph are numbered one after the other. -/
theorem numbers_target_empty (room : f.relations.length < lastNumber) (place : Placement) :
    (target {} f place).relationIds.map (·.number.toNat) =
      List.range' 1 f.relations.length := by
  rw [relationIds, relations_target_empty, map_mapIdx, map_mapIdx]
  refine List.ext_getElem (by simp) fun i hi _ => ?_
  rw [List.length_mapIdx] at hi
  rw [List.getElem_mapIdx, List.getElem_range', toNat_number_newLink (Nat.lt_trans hi room)]
  omega

/-- The empty graph is filled with what a framework says. -/
theorem reconcile_empty (meets : f.Meets limits) (room : f.relations.length < lastNumber)
    (place : Placement) :
    (∃ es placed, ({} : Graph).reconcile f place = ⟨(target {} f place).reseed, placed, .ok es⟩) ∧
      (target {} f place).reseed.Sound := by
  have hdrawn := drawn_reconcile_le {} f place
  have hnext : ({} : Graph).counter.next.toNat = 1 := rfl
  obtain ⟨es, heq⟩ := reconcile_eq sound_empty meets.toProper place (by omega)
  obtain ⟨ds, changes, hds⟩ := changes_reconcile {} f place
  have reached := (changes.within sound_empty (Nat.le_refl 1) (Nat.le_of_eq hnext) (by omega)).1
  rw [heq] at reached
  exact ⟨⟨es, _, heq⟩, reached⟩

end Reconcile

namespace Graph

/-- To fill the empty graph with what a description says loses nothing, wherever the arguments are
placed: the framework of the graph is the one that was read, in every order, the two canonical
texts are the same, and the relations are numbered from one, attacks before supports. -/
theorem reconcile_lossless (limits : Limits) (text : String) (f : Framework)
    (accepted : Description.parse limits text = .ok f) (room : f.relations.length < lastNumber)
    (place : Reconcile.Placement) :
    let r := ({} : Graph).reconcile f place
    (∃ events, r.outcome = .ok events) ∧
      (r.graph.framework = f ∧ r.graph.framework.numEq f = true ∧ f.Determined) ∧
      r.graph.toText = f.toText ∧
      r.graph.relations.map (fun q => (q.key, q.weight)) =
        Framework.withKind .attack f.attacks ++ Framework.withKind .support f.supports ∧
      r.graph.relationIds.map (·.number.toNat) = List.range' 1 f.relations.length := by
  have meets := Description.parse_meets accepted
  obtain ⟨⟨events, placed, heq⟩, -⟩ := Reconcile.reconcile_empty meets room place
  have harguments := Reconcile.argumentEntries_target_empty f place
  have hrelations := Reconcile.relationEntries_target_empty f place
  have hframework := framework_of_entries meets.toDistinct harguments hrelations
  have hnumbers := Reconcile.numbers_target_empty room place
  simp only [heq]
  generalize Reconcile.target {} f place = g at harguments hrelations hframework hnumbers
  have hreseed : g.reseed.framework = f := hframework
  refine ⟨⟨events, rfl⟩, ⟨hreseed, ?_, meets.determined⟩, ?_, hrelations, hnumbers⟩
  · rw [hreseed]
    exact meets.numEq_self
  · exact toText_of_entries harguments hrelations

/-- A support that comes first is numbered behind the attacks, and what is declared again keeps its
place. -/
theorem reconcile_lossless_redeclared :
    let text := "support(A, b).\narg(b, 0.25).\natt(b, b, 1).\narg(a).\natt(a, b).\narg(B, 0.5)."
    let f : Framework :=
      ⟨[("b", some (1 / 2)), ("a", none)], [(("b", "b"), some 1), (("a", "b"), none)],
        [(("a", "b"), none)]⟩
    let r := ({} : Graph).reconcile f fun n _ => gridPosition n
    (Description.parse {} text = .ok f ∧ f.relations.length < lastNumber) ∧
      r.graph.framework = f ∧
      r.graph.toText = "arg(b,0.5).\narg(a).\natt(b,b,1).\natt(a,b).\nsupport(a,b)." ∧
      r.graph.relationIds.map (·.number.toNat) = [1, 2, 3] := by
  intro text f r
  have accepted : Description.parse {} text = .ok f := by decide +kernel
  have room : f.relations.length < lastNumber := by decide +kernel
  have hwritten : f.toText = "arg(b,0.5).\narg(a).\natt(b,b,1).\natt(a,b).\nsupport(a,b)." := by
    decide +kernel
  obtain ⟨-, hframework, htext, -, hnumbers⟩ :=
    reconcile_lossless {} text f accepted room fun n _ => gridPosition n
  exact ⟨⟨accepted, room⟩, hframework.1, htext.trans hwritten, hnumbers⟩

end Graph

end Argumentation
