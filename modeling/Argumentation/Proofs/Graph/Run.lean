import Argumentation.Graph.Reconcile
import Argumentation.Proofs.Graph.Changes

/-!
# Runs of changes

A graph that starts empty is changed by operations, one after the other.  Some of them
are refused, and a reconciliation that is refused half-way leaves its first steps done.

Whatever is asked for is made of elementary changes: `Change` lists them, and `Changes` is
one after the other.  An elementary change keeps a graph sound and takes at most one number
from the counter, which an event tells (`Change.within`).  All that operations do is made of
elementary changes (`perform_changes`), and so is all that a reconciliation does, up to the
step at which it is refused (`changes_runRows`).  What a single step of it does is said by
`Reconcile.Step.Done`.

`run_sound` says that every graph that is reached is sound, whatever the operations and
their outcomes are.  It asks that fewer than `2 ^ 64 - 1` numbers are drawn from the
counter on the way, since the counter has 64 bits; `drawn` counts them.
-/

namespace Argumentation

/-- Whether an event tells of a new relation. -/
def Event.isRelationAdded : Event → Bool
  | .relationAdded _ => true
  | _ => false

/-- How many relations came with some events. -/
def relationsAdded (events : List Event) : Nat := events.countP (·.isRelationAdded)

theorem relationsAdded_append (es ds : List Event) :
    relationsAdded (es ++ ds) = relationsAdded es + relationsAdded ds :=
  List.countP_append

namespace Graph

/-! ## What single changes keep -/

theorem skeleton_modifyArgument (g : Graph) (id : String) {f : Argument → Argument}
    (hf : ∀ a, (f a).id = a.id) : (g.modifyArgument id f).skeleton = g.skeleton := by
  have hnodes : (g.modifyArgument id f).nodes.map bareNode = g.nodes.map bareNode := by
    rw [modifyArgument, List.map_map]
    refine List.map_congr_left fun n _ => ?_
    rw [Function.comp_apply]
    split
    · rw [bareNode, bareNode, hf]
    · rfl
  rw [skeleton, hnodes]
  rfl

theorem skeleton_mapArguments (g : Graph) {f : Argument → Argument}
    (hf : ∀ a, (f a).id = a.id) : (g.mapArguments f).skeleton = g.skeleton := by
  have hnodes : (g.mapArguments f).nodes.map bareNode = g.nodes.map bareNode := by
    rw [mapArguments, List.map_map]
    exact List.map_congr_left fun n _ => by rw [Function.comp_apply, bareNode, bareNode, hf]
  rw [skeleton, hnodes]
  rfl

theorem skeleton_setArgumentWeight (g : Graph) (id : String) (w : Option Binary64) :
    (g.setArgumentWeight id w).1.skeleton = g.skeleton := by
  rcases setArgumentWeight_cases g id w with heq | ⟨a, heq⟩
  · rw [heq]
  · rw [heq]
    exact skeleton_modifyArgument g id (f := fun a => { a with weight := w }) fun _ => rfl

theorem skeleton_setRelationWeight (g : Graph) (id : RelationId) (w : Option Binary64) :
    (g.setRelationWeight id w).1.skeleton = g.skeleton := by
  rcases setRelationWeight_cases g id w with heq | ⟨r, -, heq⟩
  · rw [heq]
  · rw [heq, modifyRelation, skeleton, skeleton, List.map_map]
    congr 1
    refine List.map_congr_left fun q _ => ?_
    rw [Function.comp_apply]
    split <;> rfl

namespace Sound

variable {g : Graph} (sound : g.Sound)
include sound

theorem of_insertArgument {a : Argument} {g' : Graph} {e : Event}
    (h : g.insertArgument a = .ok (g', e)) : g'.Sound ∧ g'.counter = g.counter := by
  obtain ⟨hnew, rfl, rfl⟩ := insertArgument_inv h
  exact ⟨sound.append_node rfl (isCanonical_canonicalId a.id) hnew, rfl⟩

theorem of_removeArgument {id : String} {g' : Graph} {es : List Event}
    (h : g.removeArgument id = .ok (g', es)) : g'.Sound ∧ g'.counter = g.counter := by
  obtain ⟨-, rfl, -⟩ := removeArgument_inv h
  exact ⟨sound.without _, rfl⟩

theorem of_renameArgument {id newId : String} {g' : Graph} {es : List Event}
    (h : g.renameArgument id newId = .ok (g', es)) : g'.Sound ∧ g'.counter = g.counter := by
  rcases renameArgument_inv h with ⟨-, rfl, -⟩ | ⟨n, -, -, hnew, rfl, -⟩
  · exact ⟨sound, rfl⟩
  · exact ⟨sound.renamed n (isCanonical_canonicalId newId) hnew, rfl⟩

theorem of_insertRelation {key : RelationKey} {w : Option Binary64} {g' : Graph}
    {id : RelationId} (h : g.insertRelation key w = .ok (g', id))
    (room : g.counter.next.toNat < lastNumber) :
    g'.Sound ∧ g'.counter.next.toNat = g.counter.next.toNat + 1 := by
  obtain ⟨hs, ht, hnew, rfl, -⟩ := insertRelation_inv h
  refine ⟨sound.withRelation hs ht hnew room, ?_⟩
  change (g.counter.next + 1).toNat = _
  rw [UInt64.toNat_add]
  unfold lastNumber UInt64.size at room
  simp only [UInt64.toNat_one]
  omega

theorem of_removeRelation {id : RelationId} {g' : Graph} {e : Event}
    (h : g.removeRelation id = .ok (g', e)) : g'.Sound ∧ g'.counter = g.counter := by
  obtain ⟨r, -, rfl, -⟩ := removeRelation_inv h
  exact ⟨sound.filter_relations _, rfl⟩

theorem of_skeleton {g' : Graph} (heq : g'.skeleton = g.skeleton) :
    g'.Sound ∧ g'.counter = g.counter := by
  have hcounter := congrArg Graph.counter heq
  exact ⟨sound.of_skeleton_eq heq, hcounter⟩

theorem of_setRelationKind {id : RelationId} {kind : RelationKind} {g' : Graph}
    {e : Option Event} (h : g.setRelationKind id kind = .ok (g', e)) :
    g'.Sound ∧ g'.counter = g.counter := by
  obtain ⟨r, hr, ⟨-, rfl, -⟩ | ⟨-, hnew, rfl, -⟩⟩ := setRelationKind_inv h
  · exact ⟨sound, rfl⟩
  · obtain ⟨hmem, hid⟩ := mem_of_relation? hr
    refine ⟨sound.modifyRelation (fun _ => rfl) (fun q hq _ => sound.joined q hq) ?_, rfl⟩
    intro q hq hqid p hp _ heq
    rw [sound.eq_of_id_eq hq hmem (hqid.trans hid.symm)] at heq
    have hkey := List.mem_map_of_mem (f := Relation.key) hp
    rw [heq] at hkey
    exact hnew hkey

theorem of_reverseRelation {id : RelationId} {g' : Graph} {e : Event}
    (h : g.reverseRelation id = .ok (g', e)) : g'.Sound ∧ g'.counter = g.counter := by
  obtain ⟨r, hr, hfree, rfl, -⟩ := reverseRelation_inv h
  obtain ⟨hmem, hid⟩ := mem_of_relation? hr
  refine ⟨sound.modifyRelation (fun _ => rfl)
    (fun q hq _ => ⟨(sound.joined q hq).2, (sound.joined q hq).1⟩) ?_, rfl⟩
  intro q hq hqid p hp hpid heq
  rw [sound.eq_of_id_eq hq hmem (hqid.trans hid.symm)] at heq
  exact hpid (hfree p.id (sound.findRelation?_eq_some_iff.2 ⟨p, hp, heq, rfl⟩))

end Sound

/-! ## Elementary changes -/

/-- An elementary change of a graph and the events that tell it. -/
inductive Change : Graph → List Event → Graph → Prop where
  /-- An argument comes. -/
  | insertArgument {g g' : Graph} {a : Argument} {e : Event} :
    g.insertArgument a = .ok (g', e) → Change g [e] g'
  /-- An argument goes with its relations. -/
  | removeArgument {g g' : Graph} {id : String} {es : List Event} :
    g.removeArgument id = .ok (g', es) → Change g es g'
  /-- An argument gets another identifier. -/
  | renameArgument {g g' : Graph} {id newId : String} {es : List Event} :
    g.renameArgument id newId = .ok (g', es) → Change g es g'
  /-- An argument gets a weight. -/
  | setArgumentWeight (g : Graph) (id : String) (w : Option Binary64) :
    Change g (g.setArgumentWeight id w).2.toList (g.setArgumentWeight id w).1
  /-- All of an argument but its identifier is overwritten. -/
  | modifyArgument (g : Graph) (id : String) {f : Argument → Argument} (es : List Event) :
    (∀ a, (f a).id = a.id) → Change g es (g.modifyArgument id f)
  /-- All of every argument but its identifier is overwritten. -/
  | mapArguments (g : Graph) {f : Argument → Argument} :
    (∀ a, (f a).id = a.id) → Change g [] (g.mapArguments f)
  /-- A relation comes. -/
  | insertRelation {g g' : Graph} {key : RelationKey} {w : Option Binary64} {id : RelationId} :
    g.insertRelation key w = .ok (g', id) → Change g [.relationAdded id] g'
  /-- A relation goes. -/
  | removeRelation {g g' : Graph} {id : RelationId} {e : Event} :
    g.removeRelation id = .ok (g', e) → Change g [e] g'
  /-- A relation gets a weight. -/
  | setRelationWeight (g : Graph) (id : RelationId) (w : Option Binary64) :
    Change g (g.setRelationWeight id w).2.toList (g.setRelationWeight id w).1
  /-- A relation gets a kind. -/
  | setRelationKind {g g' : Graph} {id : RelationId} {kind : RelationKind} {e : Option Event} :
    g.setRelationKind id kind = .ok (g', e) → Change g e.toList g'
  /-- A relation is turned round. -/
  | reverseRelation {g g' : Graph} {id : RelationId} {e : Event} :
    g.reverseRelation id = .ok (g', e) → Change g [e] g'
  /-- The counter is set behind the greatest number. -/
  | reseed (g : Graph) : Change g [] g.reseed
  /-- Everything goes. -/
  | clear (g : Graph) : Change g [] {}

/-- What an elementary change keeps.  The counter goes on by one for each relation that
comes, and nothing else moves it on. -/
theorem Change.within {g g' : Graph} {es : List Event} {n : Nat} (change : Change g es g')
    (sound : g.Sound) (hpos : 1 ≤ n) (hnext : g.counter.next.toNat ≤ n)
    (room : n + relationsAdded es ≤ lastNumber) :
    g'.Sound ∧ g'.counter.next.toNat ≤ n + relationsAdded es := by
  have stay {h : Graph} {ds : List Event} (kept : h.Sound ∧ h.counter = g.counter) :
      h.Sound ∧ h.counter.next.toNat ≤ n + relationsAdded ds :=
    ⟨kept.1, by rw [kept.2]; exact Nat.le_add_right_of_le hnext⟩
  cases change with
  | insertArgument h => exact stay (sound.of_insertArgument h)
  | removeArgument h => exact stay (sound.of_removeArgument h)
  | renameArgument h => exact stay (sound.of_renameArgument h)
  | setArgumentWeight id w => exact stay (sound.of_skeleton (skeleton_setArgumentWeight g id w))
  | modifyArgument id es hf => exact stay (sound.of_skeleton (skeleton_modifyArgument g id hf))
  | mapArguments hf => exact stay (sound.of_skeleton (skeleton_mapArguments g hf))
  | insertRelation h =>
    obtain ⟨hsound, hcounter⟩ := sound.of_insertRelation h (Nat.lt_of_le_of_lt hnext room)
    exact ⟨hsound, by rw [hcounter]; exact Nat.succ_le_succ hnext⟩
  | removeRelation h => exact stay (sound.of_removeRelation h)
  | setRelationWeight id w => exact stay (sound.of_skeleton (skeleton_setRelationWeight g id w))
  | setRelationKind h => exact stay (sound.of_setRelationKind h)
  | reverseRelation h => exact stay (sound.of_reverseRelation h)
  | reseed =>
    refine ⟨sound.reseed, Nat.le_add_right_of_le ?_⟩
    exact Nat.le_trans sound.next_reseed_le (Nat.max_le.2 ⟨hpos, hnext⟩)
  | clear => exact ⟨sound_empty, Nat.le_add_right_of_le hpos⟩

/-- Elementary changes one after the other. -/
inductive Changes : Graph → List Event → Graph → Prop where
  /-- Nothing changes. -/
  | refl (g : Graph) : Changes g [] g
  /-- A change and those after it. -/
  | step {g h k : Graph} {es ds : List Event} :
    Change g es h → Changes h ds k → Changes g (es ++ ds) k

theorem Changes.single {g h : Graph} {es : List Event} (change : Change g es h) :
    Changes g es h := by
  have := Changes.step change (.refl h)
  rwa [List.append_nil] at this

theorem Changes.trans {g h k : Graph} {es ds : List Event} (first : Changes g es h)
    (rest : Changes h ds k) : Changes g (es ++ ds) k := by
  induction first with
  | refl => exact rest
  | step change _ ih =>
    rw [List.append_assoc]
    exact .step change (ih rest)

/-- What elementary changes keep. -/
theorem Changes.within {g g' : Graph} {es : List Event} {n : Nat} (changes : Changes g es g')
    (sound : g.Sound) (hpos : 1 ≤ n) (hnext : g.counter.next.toNat ≤ n)
    (room : n + relationsAdded es ≤ lastNumber) :
    g'.Sound ∧ g'.counter.next.toNat ≤ n + relationsAdded es := by
  induction changes generalizing n with
  | refl => exact ⟨sound, Nat.le_add_right_of_le hnext⟩
  | step change _ ih =>
    rw [relationsAdded_append] at room ⊢
    obtain ⟨hsound, hle⟩ := change.within sound hpos hnext (by omega)
    rw [← Nat.add_assoc] at room ⊢
    exact ih hsound (by omega) hle room

end Graph

/-! ## Reconciliations -/

namespace Reconcile

open Argumentation.Graph

variable {place : Placement} {p q : Progress}

/-- The operation of a graph that a step consists of.  This says all that a step can do, so proofs
about steps that are taken go by its cases. -/
inductive Step.Done (place : Placement) (p : Progress) : Step → Progress → Prop where
  /-- An argument goes. -/
  | removeArgument {id : String} {g : Graph} {es : List Event}
    (hremove : p.graph.removeArgument id = .ok (g, es)) :
    Step.Done place p (.removeArgument id) ⟨g, p.events ++ es, p.placed⟩
  /-- A relation goes. -/
  | removeRelation {id : RelationId} {g : Graph} {e : Event}
    (hremove : p.graph.removeRelation id = .ok (g, e)) :
    Step.Done place p (.removeRelation id) ⟨g, p.events ++ [e], p.placed⟩
  /-- The weight of an argument that is there is settled. -/
  | weighArgument {id : String} {w : Option Binary64} (hold : p.graph.contains id = true) :
    Step.Done place p (.putArgument id w) ⟨(p.graph.setArgumentWeight id w).1,
      p.events ++ (p.graph.setArgumentWeight id w).2.toList, p.placed⟩
  /-- A new argument is placed. -/
  | insertArgument {id : String} {w : Option Binary64} {g : Graph} {e : Event}
    (hnew : p.graph.contains id = false)
    (hinsert : p.graph.insertArgument
      { id, weight := w, position := place p.placed.length id } = .ok (g, e)) :
    Step.Done place p (.putArgument id w) ⟨g, p.events ++ [e], p.placed ++ [id]⟩
  /-- The weight of a relation that is there is settled. -/
  | weighRelation {key : RelationKey} {w : Option Binary64} {id : RelationId}
    (hold : p.graph.findRelation? key = some id) :
    Step.Done place p (.putRelation key w) ⟨(p.graph.setRelationWeight id w).1,
      p.events ++ (p.graph.setRelationWeight id w).2.toList, p.placed⟩
  /-- A new relation comes. -/
  | insertRelation {key : RelationKey} {w : Option Binary64} {g : Graph} {id : RelationId}
    (hnew : p.graph.findRelation? key = none)
    (hinsert : p.graph.insertRelation key w = .ok (g, id)) :
    Step.Done place p (.putRelation key w) ⟨g, p.events ++ [.relationAdded id], p.placed⟩

theorem Step.done_of_run {s : Step} (h : s.run place p = .ok q) : s.Done place p q := by
  cases s with
  | removeArgument id =>
    cases hremove : p.graph.removeArgument id with
    | error e => simp [Step.run, hremove, bind, Except.bind] at h
    | ok r =>
      simp only [Step.run, hremove, bind, Except.bind, Except.ok.injEq] at h
      cases h
      exact .removeArgument hremove
  | removeRelation id =>
    cases hremove : p.graph.removeRelation id with
    | error e => simp [Step.run, hremove, bind, Except.bind] at h
    | ok r =>
      simp only [Step.run, hremove, bind, Except.bind, Except.ok.injEq] at h
      cases h
      exact .removeRelation hremove
  | putArgument id w =>
    cases hc : p.graph.contains id with
    | true =>
      simp only [Step.run, hc, if_true, Except.ok.injEq] at h
      cases h
      exact .weighArgument hc
    | false =>
      cases hinsert : p.graph.insertArgument
          { id, weight := w, position := place p.placed.length id } with
      | error e => simp [Step.run, hc, hinsert, bind, Except.bind] at h
      | ok r =>
        simp only [Step.run, hc, hinsert, bind, Except.bind, Except.ok.injEq, Bool.false_eq_true,
          if_false] at h
        cases h
        exact .insertArgument hc hinsert
  | putRelation key w =>
    cases hf : p.graph.findRelation? key with
    | some id =>
      simp only [Step.run, hf, Except.ok.injEq] at h
      cases h
      exact .weighRelation hf
    | none =>
      cases hinsert : p.graph.insertRelation key w with
      | error e => simp [Step.run, hf, hinsert, bind, Except.bind] at h
      | ok r =>
        simp only [Step.run, hf, hinsert, bind, Except.bind, Except.ok.injEq] at h
        cases h
        exact .insertRelation hf hinsert

/-- A step is an elementary change. -/
theorem Step.change_of_run {s : Step} (h : s.run place p = .ok q) :
    ∃ es, Change p.graph es q.graph ∧ q.events = p.events ++ es := by
  cases Step.done_of_run h with
  | removeArgument hremove => exact ⟨_, .removeArgument hremove, rfl⟩
  | removeRelation hremove => exact ⟨_, .removeRelation hremove, rfl⟩
  | weighArgument => exact ⟨_, .setArgumentWeight p.graph _ _, rfl⟩
  | insertArgument _ hinsert => exact ⟨_, .insertArgument hinsert, rfl⟩
  | weighRelation => exact ⟨_, .setRelationWeight p.graph _ _, rfl⟩
  | insertRelation _ hinsert => exact ⟨_, .insertRelation hinsert, rfl⟩

/-- Steps are elementary changes, up to the one that is refused. -/
theorem changes_run (place : Placement) (p : Progress) (ss : List Step) :
    ∃ es, Changes p.graph es (run place p ss).1.graph ∧
      (run place p ss).1.events = p.events ++ es := by
  induction ss generalizing p with
  | nil => exact ⟨[], .refl _, (List.append_nil _).symm⟩
  | cons s ss ih =>
    cases hs : s.run place p with
    | error e =>
      simp only [run, hs]
      exact ⟨[], .refl _, (List.append_nil _).symm⟩
    | ok q =>
      obtain ⟨es, change, hes⟩ := Step.change_of_run hs
      obtain ⟨ds, changes, hds⟩ := ih q
      simp only [run, hs]
      exact ⟨es ++ ds, .step change changes, by rw [hds, hes, List.append_assoc]⟩

/-- Rows of steps are elementary changes, up to the step that is refused. -/
theorem changes_runRows (place : Placement) (p : Progress) (rs : List (Graph → List Step)) :
    ∃ es, Changes p.graph es (runRows place p rs).1.graph ∧
      (runRows place p rs).1.events = p.events ++ es := by
  induction rs generalizing p with
  | nil => exact ⟨[], .refl _, (List.append_nil _).symm⟩
  | cons row rs ih =>
    obtain ⟨es, changes, hes⟩ := changes_run place p (row p.graph)
    cases hrun : run place p (row p.graph) with
    | mk q e =>
      rw [hrun] at changes hes
      cases e with
      | some e =>
        simp only [runRows, hrun]
        exact ⟨es, changes, hes⟩
      | none =>
        obtain ⟨ds, further, hds⟩ := ih q
        simp only [runRows, hrun]
        exact ⟨es ++ ds, changes.trans further, by rw [hds, hes, List.append_assoc]⟩

end Reconcile

namespace Graph

/-! ## Operations -/

/-- A change of a graph, as it can be asked for.  An identifier is never overwritten in
place; all else of an argument may be. -/
inductive Operation where
  /-- Adds an argument. -/
  | insertArgument (a : Argument)
  /-- Removes an argument and its relations. -/
  | removeArgument (id : String)
  /-- Gives an argument another identifier. -/
  | renameArgument (id newId : String)
  /-- Sets the weight of an argument. -/
  | setArgumentWeight (id : String) (weight : Option Binary64)
  /-- Overwrites all of an argument but its identifier. -/
  | changeArgument (id : String) (change : Argument → Argument)
  /-- Overwrites all of every argument but its identifier. -/
  | changeArguments (change : Argument → Argument)
  /-- Adds a relation. -/
  | insertRelation (key : RelationKey) (weight : Option Binary64)
  /-- Removes a relation. -/
  | removeRelation (id : RelationId)
  /-- Sets the weight of a relation. -/
  | setRelationWeight (id : RelationId) (weight : Option Binary64)
  /-- Sets the kind of a relation. -/
  | setRelationKind (id : RelationId) (kind : RelationKind)
  /-- Turns a relation round. -/
  | reverseRelation (id : RelationId)
  /-- Sets the counter behind the greatest number. -/
  | reseed
  /-- Removes everything. -/
  | clear
  /-- Changes the graph until it says what a framework says. -/
  | reconcile (f : Framework) (place : Reconcile.Placement)

/-- A change of an argument that keeps its identifier. -/
def keepingId (change : Argument → Argument) (a : Argument) : Argument :=
  { change a with id := a.id }

theorem id_keepingId (change : Argument → Argument) (a : Argument) :
    (keepingId change a).id = a.id := rfl

/-- What is left of a change that is made as a whole or not at all. -/
def settle (g : Graph) : Except Error (Graph × List Event) → Graph × Except Error (List Event)
  | .ok (g', events) => (g', .ok events)
  | .error e => (g, .error e)

/-- The graph after an operation, and the events or why it was refused. -/
def perform (g : Graph) : Operation → Graph × Except Error (List Event)
  | .insertArgument a => g.settle ((g.insertArgument a).map fun r => (r.1, [r.2]))
  | .removeArgument id => g.settle ((g.removeArgument id).map fun r => (r.1, r.2))
  | .renameArgument id newId => g.settle ((g.renameArgument id newId).map fun r => (r.1, r.2))
  | .setArgumentWeight id w =>
    let r := g.setArgumentWeight id w
    (r.1, .ok r.2.toList)
  | .changeArgument id change => (g.modifyArgument id (keepingId change), .ok [])
  | .changeArguments change => (g.mapArguments (keepingId change), .ok [])
  | .insertRelation key w =>
    g.settle ((g.insertRelation key w).map fun r => (r.1, [.relationAdded r.2]))
  | .removeRelation id => g.settle ((g.removeRelation id).map fun r => (r.1, [r.2]))
  | .setRelationWeight id w =>
    let r := g.setRelationWeight id w
    (r.1, .ok r.2.toList)
  | .setRelationKind id kind =>
    g.settle ((g.setRelationKind id kind).map fun r => (r.1, r.2.toList))
  | .reverseRelation id => g.settle ((g.reverseRelation id).map fun r => (r.1, [r.2]))
  | .reseed => (g.reseed, .ok [])
  | .clear => ({}, .ok [])
  | .reconcile f place =>
    let r := g.reconcile f place
    (r.graph, r.outcome)

/-- How many relations came with an outcome. -/
def told : Except Error (List Event) → Nat
  | .ok events => relationsAdded events
  | .error _ => 0

/-- How many numbers an operation draws from the counter.  A reconciliation that is
refused half-way has drawn those of its first steps. -/
def drawn (g : Graph) : Operation → Nat
  | .reconcile f place =>
    match Reconcile.undeclaredEnd? f with
    | some _ => 0
    | none =>
      relationsAdded (Reconcile.runRows place { graph := g } (Reconcile.rows f)).1.events
  | op => told (g.perform op).2

/-- The graph after some operations. -/
def run (g : Graph) : List Operation → Graph
  | [] => g
  | op :: ops => (g.perform op).1.run ops

/-- How many numbers some operations draw from the counter. -/
def drawnBy (g : Graph) : List Operation → Nat
  | [] => 0
  | op :: ops => g.drawn op + (g.perform op).1.drawnBy ops

/-! ## Runs -/

/-- A change that is made as a whole or not at all. -/
theorem changes_settle {α : Type} {g : Graph} {r : Except Error α} {f : α → Graph × List Event}
    (h : ∀ a, r = .ok a → Change g (f a).2 (f a).1) :
    ∃ es, Changes g es (g.settle (r.map f)).1 ∧ relationsAdded es = told (g.settle (r.map f)).2 := by
  cases r with
  | error e => exact ⟨[], .refl g, rfl⟩
  | ok a => exact ⟨(f a).2, .single (h a rfl), rfl⟩

/-- A reconciliation is made of elementary changes, even if it is refused half-way. -/
theorem changes_reconcile (g : Graph) (f : Framework) (place : Reconcile.Placement) :
    ∃ es, Changes g es (g.reconcile f place).graph ∧
      relationsAdded es = g.drawn (.reconcile f place) := by
  cases hu : Reconcile.undeclaredEnd? f with
  | some found =>
    refine ⟨[], ?_, ?_⟩
    · rw [reconcile, hu]
      exact .refl g
    · simp only [drawn, hu]
      rfl
  | none =>
    obtain ⟨es, changes, hes⟩ :=
      Reconcile.changes_runRows place { graph := g } (Reconcile.rows f)
    cases hrun : Reconcile.runRows place { graph := g } (Reconcile.rows f) with
    | mk p e =>
      rw [hrun] at changes hes
      have hdrawn : g.drawn (.reconcile f place) = relationsAdded es := by
        simp only [drawn, hu, hrun]
        exact congrArg relationsAdded hes
      cases e with
      | some e =>
        refine ⟨es, ?_, hdrawn.symm⟩
        simp only [reconcile, hu, hrun]
        exact changes
      | none =>
        refine ⟨es ++ ([] ++ []), ?_, by rw [hdrawn, List.append_nil, List.append_nil]⟩
        simp only [reconcile, hu, hrun]
        exact changes.trans (.step (.reseed _) (.refl _))

/-- What an operation does is made of elementary changes, and those that bring a relation are
as many as the numbers that are drawn. -/
theorem perform_changes (g : Graph) (op : Operation) :
    ∃ es, Changes g es (g.perform op).1 ∧ relationsAdded es = g.drawn op := by
  cases op with
  | insertArgument a =>
    simp only [perform, drawn]
    exact changes_settle fun _ h => .insertArgument h
  | removeArgument id =>
    simp only [perform, drawn]
    exact changes_settle fun _ h => .removeArgument h
  | renameArgument id newId =>
    simp only [perform, drawn]
    exact changes_settle fun _ h => .renameArgument h
  | setArgumentWeight id w =>
    simp only [perform, drawn]
    exact ⟨_, .single (.setArgumentWeight g id w), rfl⟩
  | changeArgument id change =>
    simp only [perform, drawn]
    exact ⟨[], .single (.modifyArgument g id [] (id_keepingId change)), rfl⟩
  | changeArguments change =>
    simp only [perform, drawn]
    exact ⟨[], .single (.mapArguments g (id_keepingId change)), rfl⟩
  | insertRelation key w =>
    simp only [perform, drawn]
    exact changes_settle fun _ h => .insertRelation h
  | removeRelation id =>
    simp only [perform, drawn]
    exact changes_settle fun _ h => .removeRelation h
  | setRelationWeight id w =>
    simp only [perform, drawn]
    exact ⟨_, .single (.setRelationWeight g id w), rfl⟩
  | setRelationKind id kind =>
    simp only [perform, drawn]
    exact changes_settle fun _ h => .setRelationKind h
  | reverseRelation id =>
    simp only [perform, drawn]
    exact changes_settle fun _ h => .reverseRelation h
  | reseed => exact ⟨[], .single (.reseed g), rfl⟩
  | clear => exact ⟨[], .single (.clear g), rfl⟩
  | reconcile f place => exact changes_reconcile g f place

/-- What operations keep.  The counter comes no further than the drawn numbers account for. -/
theorem run_within {g : Graph} (sound : g.Sound) {n : Nat} (hpos : 1 ≤ n)
    (hnext : g.counter.next.toNat ≤ n) (ops : List Operation)
    (room : n + g.drawnBy ops ≤ lastNumber) :
    (g.run ops).Sound ∧ (g.run ops).counter.next.toNat ≤ n + g.drawnBy ops := by
  induction ops generalizing g n with
  | nil => exact ⟨sound, hnext⟩
  | cons op ops ih =>
    obtain ⟨es, changes, hes⟩ := perform_changes g op
    rw [drawnBy, ← Nat.add_assoc, ← hes] at room ⊢
    obtain ⟨hsound, hle⟩ := changes.within sound hpos hnext (by omega)
    exact ih hsound (by omega) hle room

/-- Every graph that is reached from the empty one is sound, as long as numbers are left. -/
theorem run_sound (ops : List Operation) (room : drawnBy {} ops < lastNumber) :
    (run {} ops).Sound ∧ (run {} ops).counter.next.toNat ≤ 1 + drawnBy {} ops :=
  run_within sound_empty (Nat.le_refl 1) (Nat.le_refl 1) ops (by omega)

theorem run_append (g : Graph) (ops ops' : List Operation) :
    g.run (ops ++ ops') = (g.run ops).run ops' := by
  induction ops generalizing g with
  | nil => rfl
  | cons op ops ih => exact ih (g.perform op).1

theorem drawnBy_append (g : Graph) (ops ops' : List Operation) :
    g.drawnBy (ops ++ ops') = g.drawnBy ops + (g.run ops).drawnBy ops' := by
  induction ops generalizing g with
  | nil => exact (Nat.zero_add _).symm
  | cons op ops ih =>
    rw [List.cons_append, drawnBy, ih, drawnBy, Nat.add_assoc]
    rfl

/-- If numbers are left for a run and a reconciliation after it, the graph is sound before the
reconciliation and after it, and the counter has room for the numbers that it draws. -/
theorem sound_of_room {ops : List Operation} {f : Framework} {place : Reconcile.Placement}
    (room : drawnBy {} (ops ++ [.reconcile f place]) < lastNumber) :
    (run {} ops).Sound ∧ ((run {} ops).reconcile f place).graph.Sound ∧
      ∃ n, 1 ≤ n ∧ (run {} ops).counter.next.toNat ≤ n ∧
        n + (run {} ops).drawn (.reconcile f place) ≤ lastNumber := by
  have hdrawn : drawnBy {} (ops ++ [.reconcile f place]) =
      drawnBy {} ops + (run {} ops).drawn (.reconcile f place) := drawnBy_append {} ops _
  rw [hdrawn] at room
  obtain ⟨sound, hnext⟩ := run_sound ops (by omega)
  have hpos : 1 ≤ 1 + drawnBy {} ops := Nat.le_add_right 1 _
  obtain ⟨es, changes, hes⟩ := changes_reconcile (run {} ops) f place
  have hreached := changes.within sound hpos hnext (by rw [hes]; omega)
  exact ⟨sound, hreached.1, _, hpos, hnext, by omega⟩

end Graph

end Argumentation
