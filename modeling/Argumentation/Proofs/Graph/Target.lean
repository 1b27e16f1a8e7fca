import Argumentation.Proofs.Description.Accepted
import Argumentation.Proofs.Graph.Reconcile

/-!
# What a reconciliation reaches

The graph that a reconciliation ends with says what the framework says
(`sameStructure_target`).  Arguments that stay keep everything but their weight, and
relations that stay keep their number.

`reconcile_reaches` gathers this for every graph that can be reached and every framework
that a description yields.
-/

namespace Argumentation

open Argumentation.Graph

namespace Reconcile

variable {g : Graph} {f : Framework} {place : Placement}

/-! ## The weights that are reached -/

theorem optionEq_settled {old new : Option Binary64} (h : Binary64.IsNumber new) :
    Binary64.optionEq (settled old new) new = true := by
  cases heq : Binary64.optionEq old new with
  | true => rw [settled_of_eq heq, heq]
  | false =>
    rw [settled_of_ne (by rw [heq]; exact Bool.false_ne_true)]
    exact Binary64.optionEq_self h

theorem weight_putNode {entries : Assoc String (Option Binary64)} {n : Node}
    {w : Option Binary64} (h : entries.get? n.key = some w) :
    (putNode entries n).argument.weight = settled n.argument.weight w := by
  rw [putNode, h]
  rfl

theorem weight_putLink {entries : Assoc RelationKey (Option Binary64)} {r : Relation}
    {w : Option Binary64} (h : entries.get? r.key = some w) :
    (putLink entries r).weight = settled r.weight w := by
  rw [putLink, h]
  rfl

theorem mem_argumentEntries_target (weighed : f.Weighed) (sound : g.Sound) {id : String}
    {v : Option Binary64} (h : (id, v) ∈ (target g f place).argumentEntries) :
    ∃ w, (id, w) ∈ f.arguments ∧ Binary64.optionEq v w = true := by
  obtain ⟨a, ha, rfl, rfl⟩ := mem_argumentEntries_iff.1 h
  obtain ⟨n, hn, rfl⟩ := List.mem_map.1 ha
  cases List.mem_append.1 hn with
  | inl hold =>
    obtain ⟨m, hm, rfl⟩ := List.mem_map.1 hold
    obtain ⟨hmem, hc⟩ := List.mem_filter.1 hm
    obtain ⟨w, hw⟩ := Assoc.exists_get?_of_mem_keys (Framework.containsArgument_iff.1 hc)
    have hentry := Assoc.mem_of_get? hw
    refine ⟨w, ?_, ?_⟩
    · rwa [id_putNode, sound.keyed m hmem]
    · rw [weight_putNode hw]
      exact optionEq_settled (weighed.arguments _ hentry)
  | inr hnew =>
    obtain ⟨i, hi, rfl⟩ := List.exists_of_mem_mapIdx hnew
    have hentry := List.mem_of_mem_filter (List.getElem_mem hi)
    exact ⟨_, hentry, Binary64.optionEq_self (weighed.arguments _ hentry)⟩

theorem mem_relationEntries_target (place : Placement) (weighed : f.Weighed) {key : RelationKey}
    {v : Option Binary64} (h : (key, v) ∈ (target g f place).relationEntries) :
    ∃ w, (key, w) ∈ f.relations ∧ Binary64.optionEq v w = true := by
  obtain ⟨r, hr, rfl, rfl⟩ := mem_relationEntries_iff.1 h
  cases List.mem_append.1 hr with
  | inl hold =>
    obtain ⟨q, hq, rfl⟩ := List.mem_map.1 hold
    obtain ⟨-, hc⟩ := List.mem_filter.1 hq
    obtain ⟨w, hw⟩ := Assoc.exists_get?_of_mem_keys (Framework.containsRelation_iff.1 hc)
    have hentry := Assoc.mem_of_get? hw
    refine ⟨w, ?_, ?_⟩
    · rwa [key_putLink]
    · rw [weight_putLink hw]
      exact optionEq_settled (weighed.relations _ hentry)
  | inr hnew =>
    obtain ⟨i, hi, rfl⟩ := List.exists_of_mem_mapIdx hnew
    have hentry := List.mem_of_mem_filter (List.getElem_mem hi)
    exact ⟨_, hentry, Binary64.optionEq_self (weighed.relations _ hentry)⟩

theorem mem_relationKeys_target (place : Placement) {key : RelationKey}
    (h : key ∈ f.relations.keys) :
    key ∈ (target g f place).relationKeys := by
  obtain ⟨e, he, rfl⟩ := List.mem_map.1 h
  rw [relationKeys, target, List.map_append, List.mem_append]
  by_cases hmem : e.1 ∈ g.relationKeys
  · obtain ⟨r, hr, hkey⟩ := List.mem_map.1 hmem
    have hkept : r ∈ (kept g f).relations :=
      List.mem_filter.2 ⟨hr, by rw [hkey]; exact Framework.containsRelation_iff.2 h⟩
    refine Or.inl (List.mem_map.2 ⟨_, List.mem_map_of_mem hkept, ?_⟩)
    rw [key_putLink, hkey]
  · have hnew : ((newRelations g f).mapIdx fun i e =>
        newLink (g.counter.next + UInt64.ofNat i) e).map (·.key) =
        (newRelations g f).map (·.1) := map_mapIdx_of_eq fun _ _ => rfl
    refine Or.inr ?_
    rw [hnew]
    exact List.mem_map_of_mem (List.mem_filter.2 ⟨he, decide_eq_true hmem⟩)

/-- Entries that are found on both sides are equal if each on the left equals one on the
right and the right has no further keys. -/
theorem rel_optionEq_get? {κ : Type} [DecidableEq κ] {l m : Assoc κ (Option Binary64)}
    (hm : m.keys.Nodup)
    (hsub : ∀ k v, (k, v) ∈ l → ∃ w, (k, w) ∈ m ∧ Binary64.optionEq v w = true)
    (hkeys : ∀ k ∈ m.keys, k ∈ l.keys) (k : κ) :
    Option.Rel (fun v w => Binary64.optionEq v w = true) (l.get? k) (m.get? k) := by
  cases hl : l.get? k with
  | none =>
    have hk := Assoc.get?_eq_none_iff.1 hl
    rw [Assoc.get?_eq_none_iff.2 fun h => hk (hkeys k h)]
    exact .none
  | some v =>
    obtain ⟨w, hw, heq⟩ := hsub k v (Assoc.mem_of_get? hl)
    rw [(Assoc.get?_eq_some_iff hm).2 hw]
    exact .some heq

/-- The target says what the framework says. -/
theorem sameStructure_target (sound : g.Sound) (proper : f.Proper) (weighed : f.Weighed)
    (reached : (target g f place).reseed.Sound) :
    (target g f place).reseed.framework.sameStructure f = true := by
  rw [reached.sameStructure_framework_iff proper.toDistinct]
  constructor
  · refine rel_optionEq_get? proper.arguments
      (fun id v h => mem_argumentEntries_target weighed sound h) fun id h => ?_
    rw [reached.keys_argumentEntries]
    exact mem_keys_afterPut h
  · refine rel_optionEq_get? proper.relations
      (fun key v h => mem_relationEntries_target place weighed h) fun key h => ?_
    rw [keys_relationEntries]
    exact mem_relationKeys_target place h

/-! ## What stays -/

/-- The weight that an argument has after a reconciliation. -/
def weightIn (f : Framework) (a : Argument) : Option Binary64 :=
  match f.argument? a.id with
  | none => a.weight
  | some w => settled a.weight w

theorem argument_putNode {n : Node} (h : n.argument.id = n.key) :
    (putNode f.arguments n).argument =
      { n.argument with weight := weightIn f n.argument } := by
  unfold putNode weightIn Framework.argument?
  rw [← h]
  cases f.arguments.get? n.argument.id with
  | none => rfl
  | some w => rfl

theorem arguments_target (sound : g.Sound) :
    (target g f place).arguments =
      (g.arguments.filter (f.containsArgument ·.id)).map
          (fun a => { a with weight := weightIn f a }) ++
        (newArguments g f).mapIdx fun i e => { id := e.1, weight := e.2, position := place i e.1 } := by
  have hfilter : g.nodes.filter (f.containsArgument ·.key) =
      g.nodes.filter ((f.containsArgument ·.id) ∘ (·.argument)) :=
    List.filter_congr fun n hn => by rw [Function.comp_apply, sound.keyed n hn]
  have hkept : ((kept g f).nodes.map (putNode f.arguments)).map (·.argument) =
      (g.arguments.filter (f.containsArgument ·.id)).map
        fun a => { a with weight := weightIn f a } := by
    rw [arguments, List.filter_map, List.map_map, List.map_map, ← hfilter]
    refine List.map_congr_left fun n hn => ?_
    exact argument_putNode (sound.keyed n (List.mem_of_mem_filter hn))
  rw [arguments, target, List.map_append, hkept, map_mapIdx]
  rfl

theorem exists_kept_relation (place : Placement) {r : Relation} (hr : r ∈ g.relations)
    (h : f.containsRelation r.key = true) :
    ∃ q ∈ (target g f place).relations, q.id = r.id ∧ q.key = r.key :=
  ⟨putLink f.relations r,
    List.mem_append_left _ (List.mem_map_of_mem (List.mem_filter.2 ⟨hr, h⟩)),
    id_putLink f.relations r, key_putLink f.relations r⟩

end Reconcile

/-! ## The counter -/

/-- A counter that is set anew stands one behind the greatest number. -/
theorem Graph.Sound.next_reseed_eq {g : Graph} (sound : g.Sound) :
    g.reseed.counter.next.toNat = (g.relationIds.map (·.number.toNat)).max?.getD 0 + 1 := by
  rw [sound.toNat_next_reseed]
  cases hm : (g.relationIds.map (·.number.toNat)).max? with
  | none =>
    have hnil := List.map_eq_nil_iff.1 (List.max?_eq_none_iff.1 hm)
    rw [hnil]
    rfl
  | some m =>
    obtain ⟨hmem, hle⟩ := List.max?_eq_some_iff.1 hm
    obtain ⟨id, hid, rfl⟩ := List.mem_map.1 hmem
    have hge := UInt64.le_iff_toNat_le.1 (le_greatest hid)
    rw [Option.getD_some]
    cases greatest_eq_zero_or_mem g.relationIds with
    | inl hzero =>
      rw [hzero] at hge ⊢
      exact congrArg (· + 1) (Nat.le_zero.1 hge).symm
    | inr hsome =>
      obtain ⟨other, hother, heq⟩ := hsome
      rw [heq] at hge ⊢
      exact congrArg (· + 1) (Nat.le_antisymm (hle _ (List.mem_map_of_mem hother)) hge)

/-! ## Runs and reconciliations -/

namespace Graph

/-- A graph that can be reached is changed by a reconciliation until it says what a
description says, and nothing that may stay is changed. -/
theorem reconcile_reaches (limits : Limits) (text : String) (f : Framework)
    (accepted : Description.parse limits text = .ok f) (ops : List Operation)
    (place : Reconcile.Placement)
    (room : drawnBy {} (ops ++ [.reconcile f place]) < lastNumber) :
    let g := run {} ops
    let r := g.reconcile f place
    let new := f.arguments.filter (·.1 ∉ g.keys)
    (∃ events, r.outcome = .ok events) ∧
    r.graph.framework.sameStructure f = true ∧
    r.graph.arguments =
      (g.arguments.filter (f.containsArgument ·.id)).map
          (fun a => { a with weight := Reconcile.weightIn f a }) ++
        new.mapIdx (fun i e => { id := e.1, weight := e.2, position := place i e.1 }) ∧
    r.placed = new.map (·.1) ∧
    (∀ q ∈ g.relations, f.containsRelation q.key = true →
      ∃ q' ∈ r.graph.relations, q'.id = q.id ∧ q'.key = q.key) ∧
    r.graph.counter.next.toNat = (r.graph.relationIds.map (·.number.toNat)).max?.getD 0 + 1 := by
  have meets := Description.parse_meets accepted
  have hdrawn : drawnBy {} (ops ++ [.reconcile f place]) =
      drawnBy {} ops + (run {} ops).drawn (.reconcile f place) := drawnBy_append {} ops _
  rw [hdrawn] at room
  obtain ⟨sound, hnext⟩ := run_sound ops (by omega)
  generalize run {} ops = g at room sound hnext ⊢
  obtain ⟨events, heq⟩ := Reconcile.reconcile_eq sound meets.toProper place (by omega)
  obtain ⟨es, changes, hes⟩ := changes_reconcile g f place
  have reached : (g.reconcile f place).graph.Sound :=
    (changes.within sound (Nat.le_add_right 1 _) hnext (by rw [hes]; omega)).1
  simp only [heq] at reached ⊢
  exact ⟨⟨events, rfl⟩,
    Reconcile.sameStructure_target sound meets.toProper meets.weighed reached,
    Reconcile.arguments_target sound, rfl, fun q hq hc => Reconcile.exists_kept_relation place hq hc,
    reached.next_reseed_eq⟩

/-- A description that drops an argument, keeps one with its attack on itself and places a
new one. -/
theorem reconcile_reaches_mixed :
    ∃ f, Description.parse {} "arg(C).\narg(a,0.5).\natt(a,a).\nsupport(c,a,1)." = .ok f ∧
      drawnBy {} ([.insertArgument { id := "A", description := some "first" },
        .insertArgument { id := "b" }, .insertRelation ⟨.attack, "b", "a"⟩ none,
        .insertRelation ⟨.attack, "a", "a"⟩ (some 1)] ++
        [.reconcile f fun n _ => gridPosition n]) < lastNumber ∧
      ((run {} [.insertArgument { id := "A", description := some "first" },
        .insertArgument { id := "b" }, .insertRelation ⟨.attack, "b", "a"⟩ none,
        .insertRelation ⟨.attack, "a", "a"⟩ (some 1)]).reconcile f
          fun n _ => gridPosition n).graph.framework.sameStructure f = true := by
  refine ⟨⟨[("c", none), ("a", some (1 / 2))], [(("a", "a"), none)], [(("c", "a"), some 1)]⟩,
    by decide +kernel, by decide +kernel, ?_⟩
  exact (reconcile_reaches {} "arg(C).\narg(a,0.5).\natt(a,a).\nsupport(c,a,1)." _
    (by decide +kernel) _ _ (by decide +kernel)).2.1

end Graph

end Argumentation
