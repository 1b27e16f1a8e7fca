import Argumentation.Proofs.Framework.Declared
import Argumentation.Proofs.Graph.Target

/-!
# Reconciliations with declared frameworks

A framework that is declared piece by piece need not be one that a description can say: an
end of a relation may not be declared, and identifiers may stand in any letter case.  The two
are not treated alike.

An end that is not declared is found before anything is changed, so the graph stays as it is.
Identifiers are not looked at.  The steps look for them in their canonical form, while what
they are compared with stays as it was declared, so the graph that is reached says what the
framework says only if every declared identifier is canonical; a later step may even be
refused when those before it are done (`reconcile_half_done`).

Main statement: `reconcile_declared`.
-/

namespace Argumentation

/-! ## Declared frameworks -/

namespace Framework

variable {f : Framework} {ds : List Declaration}

/-- A framework in which every end of a relation is declared. -/
def Joined (f : Framework) : Prop :=
  ∀ key ∈ f.relations.keys, key.source ∈ f.arguments.keys ∧ key.target ∈ f.arguments.keys

instance (f : Framework) : Decidable f.Joined :=
  inferInstanceAs (Decidable (∀ key ∈ f.relations.keys, _))

theorem Weighed.declare (weighed : f.Weighed) {d : Declaration}
    (number : Binary64.IsNumber d.weight) : (f.declare d).Weighed := by
  cases d with
  | argument id w =>
    constructor
    · intro e he
      cases Assoc.mem_put he with
      | inl heq => exact heq ▸ number
      | inr hold => exact weighed.arguments e hold
    · exact weighed.relations
  | relation key w =>
    constructor
    · intro e he
      rw [Framework.declare, arguments_declareRelation] at he
      exact weighed.arguments e he
    · intro e he
      cases mem_declareRelation he with
      | inl heq => exact heq ▸ number
      | inr hold => exact weighed.relations e hold

theorem weighed_empty : Weighed {} where
  arguments e he := by cases he
  relations e he := by cases he

theorem weighed_declared (numbers : ∀ d ∈ ds, Binary64.IsNumber d.weight) :
    (declared ds).Weighed :=
  List.foldlRecOn ds declare weighed_empty fun _ weighed _ hd => weighed.declare (numbers _ hd)

end Framework

/-! ## Ends that are not declared -/

namespace Reconcile

variable {f : Framework} {g : Graph} {place : Placement}

/-- If an end of a relation is not declared, such an end is found. -/
theorem exists_undeclaredEnd? (h : ¬ f.Joined) :
    ∃ key ∈ f.relations.keys, ∃ id ∉ f.arguments.keys, (id = key.source ∨ id = key.target) ∧
      undeclaredEnd? f = some (key, id) := by
  have hundeclared (id : String) : (!f.containsArgument id) = true ↔ id ∉ f.arguments.keys := by
    rw [← Framework.containsArgument_iff, Bool.not_eq_true', Bool.not_eq_true]
  cases hu : undeclaredEnd? f with
  | none =>
    refine absurd (fun key hkey => ?_) h
    obtain ⟨e, he, rfl⟩ := List.mem_map.1 hkey
    have hnone := List.findSome?_eq_none_iff.1 hu e he
    simp only [hundeclared] at hnone
    split at hnone
    · cases hnone
    · next hs =>
      split at hnone
      · cases hnone
      · next ht => exact ⟨not_not.1 hs, not_not.1 ht⟩
  | some found =>
    obtain ⟨e, he, hfound⟩ := List.exists_of_findSome?_eq_some hu
    simp only [hundeclared] at hfound
    split at hfound
    · next hs =>
      cases hfound
      exact ⟨e.1, List.mem_map_of_mem he, e.1.source, hs, Or.inl rfl, rfl⟩
    · split at hfound
      · next ht =>
        cases hfound
        exact ⟨e.1, List.mem_map_of_mem he, e.1.target, ht, Or.inr rfl, rfl⟩
      · cases hfound

/-- A framework with an end that is not declared is refused before anything is changed. -/
theorem reconcile_of_not_joined (h : ¬ f.Joined) (g : Graph) (place : Placement) :
    ∃ key ∈ f.relations.keys, ∃ id ∉ f.arguments.keys, (id = key.source ∨ id = key.target) ∧
      g.reconcile f place = ⟨g, [], .error (refusal key id)⟩ := by
  obtain ⟨key, hkey, id, hid, hend, hu⟩ := exists_undeclaredEnd? h
  exact ⟨key, hkey, id, hid, hend, by rw [Graph.reconcile, hu]⟩

end Reconcile

/-! ## Runs and declared frameworks -/

namespace Graph

/-- What a sound graph says has canonical identifiers only. -/
theorem Sound.canonical_of_sameStructure {g : Graph} (sound : g.Sound) {f : Framework}
    (distinct : f.Distinct) (same : g.framework.sameStructure f = true) :
    ∀ id ∈ f.arguments.keys, IsCanonical id := by
  intro id hid
  rw [sound.sameStructure_framework_iff distinct] at same
  rw [← Assoc.mem_keys_iff_of_rel (same.1 id), sound.keys_argumentEntries] at hid
  exact sound.canonical id hid

/-- Whatever is declared, as long as the weights are numbers: an end that is not declared is
refused and leaves the graph as it is.  If every end is declared, the reconciliation succeeds and
the graph says what was declared, if and only if every declared identifier is canonical. -/
theorem reconcile_declared (ds : List Declaration)
    (numbers : ∀ d ∈ ds, Binary64.IsNumber d.weight) (ops : List Operation)
    (place : Reconcile.Placement)
    (room : drawnBy {} (ops ++ [.reconcile (.declared ds) place]) < lastNumber) :
    let f := Framework.declared ds
    let g := run {} ops
    let r := g.reconcile f place
    (¬ f.Joined → ∃ key ∈ f.relations.keys, ∃ id ∉ f.arguments.keys,
      (id = key.source ∨ id = key.target) ∧
        r.outcome = .error (Reconcile.refusal key id) ∧ r.graph = g) ∧
    (f.Joined → (((∃ events, r.outcome = .ok events) ∧
      r.graph.framework.sameStructure f = true) ↔ ∀ id ∈ f.arguments.keys, IsCanonical id)) := by
  have distinct := Framework.distinct_declared ds
  have weighed := Framework.weighed_declared numbers
  obtain ⟨sound, reached, n, -, hnext, hroom⟩ := sound_of_room room
  generalize Framework.declared ds = f at distinct weighed reached hroom ⊢
  generalize run {} ops = g at sound reached hnext hroom ⊢
  intro _ _ r
  constructor
  · intro hjoined
    obtain ⟨key, hkey, id, hid, hend, heq⟩ := Reconcile.reconcile_of_not_joined hjoined g place
    exact ⟨key, hkey, id, hid, hend, congrArg (·.outcome) heq, congrArg (·.graph) heq⟩
  · intro hjoined
    constructor
    · rintro ⟨-, hsame⟩
      exact reached.canonical_of_sameStructure distinct hsame
    · intro hcanonical
      have proper : f.Proper := ⟨distinct, hcanonical, hjoined⟩
      obtain ⟨events, heq⟩ := Reconcile.reconcile_eq sound proper place (by omega)
      refine ⟨⟨events, congrArg (·.outcome) heq⟩, ?_⟩
      have hgraph : r.graph = (Reconcile.target g f place).reseed := congrArg (·.graph) heq
      rw [hgraph]
      exact Reconcile.sameStructure_target sound proper weighed (hgraph ▸ reached)

/-- An attack on an argument that is not declared under this letter case is refused.  Relations
and arguments may be declared in any order, and more than once. -/
theorem reconcile_declared_mixed :
    let ops : List Operation := [.insertArgument { id := "A" },
      .insertRelation ⟨.attack, "a", "a"⟩ none]
    let place : Reconcile.Placement := fun n _ => gridPosition n
    let loose : List Declaration := [.argument "a" none, .relation ⟨.attack, "a", "A"⟩ (some 1)]
    let joined : List Declaration := [.relation ⟨.support, "b", "a"⟩ none,
      .argument "b" (some (1 / 2)), .argument "a" none, .argument "b" (some 1)]
    ((∀ d ∈ loose, Binary64.IsNumber d.weight) ∧ (∀ d ∈ joined, Binary64.IsNumber d.weight)) ∧
    (drawnBy {} (ops ++ [.reconcile (.declared loose) place]) < lastNumber ∧
      drawnBy {} (ops ++ [.reconcile (.declared joined) place]) < lastNumber) ∧
    (∃ e, ((run {} ops).reconcile (.declared loose) place).outcome = .error e) ∧
    ((run {} ops).reconcile (.declared loose) place).graph = run {} ops ∧
    ((run {} ops).reconcile (.declared joined) place).graph.framework.sameStructure
      (.declared joined) = true := by
  intro ops place loose joined
  have hloose : ∀ d ∈ loose, Binary64.IsNumber d.weight := by decide +kernel
  have hjoined : ∀ d ∈ joined, Binary64.IsNumber d.weight := by decide +kernel
  have room : drawnBy {} (ops ++ [.reconcile (.declared loose) place]) < lastNumber := by
    decide +kernel
  have room' : drawnBy {} (ops ++ [.reconcile (.declared joined) place]) < lastNumber := by
    decide +kernel
  obtain ⟨key, -, id, -, -, houtcome, hgraph⟩ :=
    (reconcile_declared loose hloose ops place room).1 (by decide +kernel)
  have hsame := ((reconcile_declared joined hjoined ops place room').2 (by decide +kernel)).2
    (by decide +kernel)
  exact ⟨⟨hloose, hjoined⟩, ⟨room, room'⟩, ⟨_, houtcome⟩, hgraph, hsame.2⟩

/-- An attack of an argument on itself is declared in lower case and in upper case.  The second
one is refused as the first one again, when the argument and the first one are there already. -/
theorem reconcile_half_done :
    let ds : List Declaration := [.argument "a" none, .argument "A" none,
      .relation ⟨.attack, "a", "a"⟩ none, .relation ⟨.attack, "A", "A"⟩ none]
    let g := run {} []
    let r := g.reconcile (.declared ds) fun _ _ => {}
    (∀ d ∈ ds, Binary64.IsNumber d.weight) ∧
      r.outcome = .error (.duplicateRelation "att(a,a)") ∧ r.graph ≠ g ∧
      r.graph.keys = ["a"] ∧ r.graph.relationKeys = [⟨.attack, "a", "a"⟩] := by
  decide +kernel

end Graph

end Argumentation
