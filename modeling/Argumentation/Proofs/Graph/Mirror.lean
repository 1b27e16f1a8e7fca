import Argumentation.Proofs.Edit
import Argumentation.Proofs.Graph.Difference
import Mathlib.Data.Finset.Basic
import Mathlib.Data.Finset.Filter

/-!
# Mirrors of graphs

Whoever only hears the events of a graph can keep a mirror of it: which arguments and which
relations there are.  The mirror follows an event only if it could have happened.  What comes must
not be there yet, and what changes or goes must be there.

The events of every change of a sound graph can be followed, and they lead from the mirror of the
graph to the mirror of the changed graph: `Mirrored`.  There is a lemma for each change
(`Sound.mirrored_removeArgument`, `Sound.mirrored_renameArgument` and so on), and from these comes
what edits tell (`Edit.mirrored_apply`) and what reconciliations tell
(`Reconcile.mirrored_reconcile`).
-/

namespace Argumentation

/-- The identifiers of the arguments and the numbers of the relations that there are. -/
@[ext] structure Mirror where
  /-- The identifiers of the arguments. -/
  arguments : Finset String
  /-- The numbers of the relations. -/
  relations : Finset RelationId
  deriving DecidableEq

namespace Mirror

/-- The mirror after an event, if the event can have happened. -/
def follow? (m : Mirror) : Event → Option Mirror
  | .argumentAdded id =>
    if id ∈ m.arguments then none else some { m with arguments := insert id m.arguments }
  | .argumentUpdated id => if id ∈ m.arguments then some m else none
  | .argumentRenamed old new =>
    if old ∈ m.arguments ∧ new ∉ m.arguments then
      some { m with arguments := insert new (m.arguments.erase old) }
    else none
  | .argumentRemoved id =>
    if id ∈ m.arguments then some { m with arguments := m.arguments.erase id } else none
  | .relationAdded n =>
    if n ∈ m.relations then none else some { m with relations := insert n m.relations }
  | .relationUpdated n => if n ∈ m.relations then some m else none
  | .relationMoved n => if n ∈ m.relations then some m else none
  | .relationRemoved n =>
    if n ∈ m.relations then some { m with relations := m.relations.erase n } else none

/-- The mirror after some events, if they can have happened one after the other. -/
def replay? (m : Mirror) (es : List Event) : Option Mirror := es.foldlM follow? m

theorem replay?_cons (m : Mirror) (e : Event) (es : List Event) :
    m.replay? (e :: es) = (m.follow? e).bind (·.replay? es) := List.foldlM_cons

theorem replay?_append (m : Mirror) (es ds : List Event) :
    m.replay? (es ++ ds) = (m.replay? es).bind (·.replay? ds) := List.foldlM_append

/-- Relations that are there go one after the other. -/
theorem replay?_relationRemoved {ids : List RelationId} (hnodup : ids.Nodup) {m : Mirror}
    (hmem : ∀ n ∈ ids, n ∈ m.relations) :
    m.replay? (ids.map .relationRemoved) =
      some { m with relations := m.relations.filter (· ∉ ids) } := by
  induction ids generalizing m with
  | nil =>
    have hall : m.relations.filter (· ∉ []) = m.relations :=
      Finset.filter_true_of_mem fun _ _ => List.not_mem_nil
    rw [hall]
    rfl
  | cons id ids ih =>
    rw [List.nodup_cons] at hnodup
    have hrest : ∀ n ∈ ids, n ∈ m.relations.erase id := fun n h =>
      Finset.mem_erase.2 ⟨fun heq => hnodup.1 (heq ▸ h), hmem n (List.mem_cons_of_mem _ h)⟩
    have hfilter : (m.relations.erase id).filter (· ∉ ids) =
        m.relations.filter (· ∉ id :: ids) := by
      ext n
      simp [and_assoc, and_left_comm]
    rw [List.map_cons, replay?_cons, follow?, if_pos (hmem id List.mem_cons_self), Option.bind_some,
      ih hnodup.2 hrest, hfilter]

/-- Relations that are there may be told to have moved. -/
theorem replay?_relationMoved {ids : List RelationId} {m : Mirror}
    (hmem : ∀ n ∈ ids, n ∈ m.relations) : m.replay? (ids.map .relationMoved) = some m := by
  induction ids with
  | nil => rfl
  | cons id ids ih =>
    rw [List.map_cons, replay?_cons, follow?, if_pos (hmem id List.mem_cons_self), Option.bind_some]
    exact ih fun n h => hmem n (List.mem_cons_of_mem _ h)

end Mirror

namespace Graph

variable {g g' h : Graph}

/-- The mirror of a graph. -/
def mirror (g : Graph) : Mirror := ⟨(g.arguments.map (·.id)).toFinset, g.relationIds.toFinset⟩

/-- Whether events lead from the mirror of a graph to that of another. -/
def Mirrored (g : Graph) (es : List Event) (g' : Graph) : Prop :=
  g.mirror.replay? es = some g'.mirror

theorem Mirrored.nil (heq : g'.mirror = g.mirror) : Mirrored g [] g' := by
  rw [Mirrored, heq]
  rfl

theorem Mirrored.single {e : Event} (heq : g.mirror.follow? e = some g'.mirror) :
    Mirrored g [e] g' := by
  rw [Mirrored, Mirror.replay?_cons, heq]
  rfl

theorem Mirrored.trans {es ds : List Event} (first : Mirrored g es g') (rest : Mirrored g' ds h) :
    Mirrored g (es ++ ds) h := by
  rw [Mirrored, Mirror.replay?_append, first, Option.bind_some, rest]

/-! ## What mirrors do not show -/

theorem mirror_skeleton (g : Graph) : g.skeleton.mirror = g.mirror := by
  simp only [mirror, skeleton, arguments, relationIds, List.map_map]
  rfl

theorem mirror_of_skeleton (heq : g'.skeleton = g.skeleton) : g'.mirror = g.mirror := by
  rw [← mirror_skeleton, heq, mirror_skeleton]

theorem mirror_of_content (heq : g'.content = g.content) : g'.mirror = g.mirror := by
  refine mirror_of_skeleton ?_
  rw [← skeleton_content, heq, skeleton_content]

theorem mirror_modifyRelation (g : Graph) (id : RelationId) {f : Relation → Relation}
    (hid : ∀ r, (f r).id = r.id) : (g.modifyRelation id f).mirror = g.mirror := by
  have hids : (g.modifyRelation id f).relationIds = g.relationIds := by
    rw [relationIds, modifyRelation, List.map_map, relationIds]
    refine List.map_congr_left fun r _ => ?_
    rw [Function.comp_apply]
    split
    · exact hid r
    · rfl
  rw [mirror, hids]
  rfl

theorem mem_mirror_relations {n : RelationId} : n ∈ g.mirror.relations ↔ n ∈ g.relationIds :=
  List.mem_toFinset

theorem mem_mirror_of_mem_incident {key : String} {n : RelationId} (hn : n ∈ g.incident key) :
    n ∈ g.mirror.relations := by
  obtain ⟨r, hr, rfl⟩ := exists_of_mem_incident hn
  exact mem_mirror_relations.2 (List.mem_map_of_mem hr)

theorem relationIds_renamed (g : Graph) (n : Node) (newId : String) :
    (g.renamed n newId).relationIds = g.relationIds := by
  rw [relationIds, Graph.renamed, List.map_map, relationIds]
  rfl

namespace Sound

variable (sound : g.Sound)
include sound

theorem mirror_arguments : g.mirror.arguments = g.keys.toFinset := by
  rw [mirror, sound.map_id_arguments]

theorem mem_mirror_arguments {id : String} : id ∈ g.mirror.arguments ↔ id ∈ g.keys := by
  rw [sound.mirror_arguments, List.mem_toFinset]

/-! ## Arguments -/

theorem mirrored_insertArgument {a : Argument} {e : Event}
    (hok : g.insertArgument a = .ok (g', e)) : Mirrored g [e] g' := by
  have reached := (sound.of_insertArgument hok).1
  obtain ⟨hmem, rfl, rfl⟩ := insertArgument_inv hok
  refine Mirrored.single ?_
  rw [Mirror.follow?, if_neg fun h => hmem (sound.mem_mirror_arguments.1 h), Option.some_inj]
  ext id
  · rw [reached.mem_mirror_arguments]
    simp [keys, sound.mem_mirror_arguments, or_comm]
  · rfl

theorem relationIds_without {key : String} (hcanonical : IsCanonical key) :
    (g.without key).relationIds = g.relationIds.filter (· ∉ g.incident key) := by
  have hstay := sound.filter_not_mem_incident key
  rw [show canonicalId key = key from hcanonical] at hstay
  rw [relationIds, Graph.without, ← hstay, relationIds, List.filter_map]
  rfl

/-- The relations of an argument go before it. -/
theorem mirrored_removeArgument {id : String} {es : List Event}
    (hok : g.removeArgument id = .ok (g', es)) : Mirrored g es g' := by
  have reached := (sound.of_removeArgument hok).1
  obtain ⟨hmem, rfl, rfl⟩ := removeArgument_inv hok
  rw [Mirrored, Mirror.replay?_append,
    Mirror.replay?_relationRemoved (sound.nodup_incident _) fun _ => mem_mirror_of_mem_incident,
    Option.bind_some, Mirror.replay?_cons, Mirror.follow?,
    if_pos (sound.mem_mirror_arguments.2 hmem), Option.bind_some]
  refine congrArg some ?_
  ext other
  · rw [reached.mem_mirror_arguments, keys_without]
    simp [sound.mem_mirror_arguments, and_comm]
  · rw [mem_mirror_relations, sound.relationIds_without (isCanonical_canonicalId id)]
    simp [mem_mirror_relations]

theorem mirror_renamed {n : Node} {newId : String} (reached : (g.renamed n newId).Sound) :
    (g.renamed n newId).mirror =
      { g.mirror with arguments := insert newId (g.mirror.arguments.erase n.key) } := by
  ext other
  · rw [reached.mem_mirror_arguments, keys_renamed]
    simp [sound.mem_mirror_arguments, or_comm, and_comm]
  · rw [mem_mirror_relations, relationIds_renamed, ← mem_mirror_relations]

/-- An argument is told to be renamed before its relations are told to have moved. -/
theorem mirrored_renameArgument {id newId : String} {es : List Event}
    (hok : g.renameArgument id newId = .ok (g', es)) : Mirrored g es g' := by
  have reached := (sound.of_renameArgument hok).1
  rcases renameArgument_inv hok with ⟨-, rfl, rfl⟩ | ⟨n, hn, hkey, hnew, rfl, rfl⟩
  · exact .nil rfl
  · have hmirror := sound.mirror_renamed reached
    rw [hkey] at hmirror
    have hold : canonicalId id ∈ g.keys := hkey ▸ List.mem_map_of_mem hn
    have hincident : ∀ m ∈ g.incident (canonicalId id),
        m ∈ (g.renamed n (canonicalId newId)).mirror.relations := by
      intro m hm
      rw [hmirror]
      exact mem_mirror_of_mem_incident hm
    rw [Mirrored, Mirror.replay?_cons, Mirror.follow?,
      if_pos ⟨sound.mem_mirror_arguments.2 hold, fun h => hnew (sound.mem_mirror_arguments.1 h)⟩,
      ← hmirror, Option.bind_some, Mirror.replay?_relationMoved hincident]

theorem mirrored_setArgumentWeight (id : String) (w : Option Binary64) :
    Mirrored g (g.setArgumentWeight id w).2.toList (g.setArgumentWeight id w).1 := by
  have hmirror := mirror_of_skeleton (skeleton_setArgumentWeight g id w)
  by_cases hmem : canonicalId id ∈ g.keys
  · obtain ⟨n, hn, hnmem, -⟩ := exists_node_of_mem hmem
    rw [setArgumentWeight_of_find hn] at hmirror ⊢
    split at hmirror
    · next heq =>
      rw [if_pos heq]
      exact .nil rfl
    · next hne =>
      rw [if_neg hne]
      refine Mirrored.single ?_
      have hid : n.argument.id ∈ g.mirror.arguments := by
        rw [sound.mem_mirror_arguments, sound.keyed n hnmem]
        exact List.mem_map_of_mem hnmem
      rw [Mirror.follow?, if_pos hid, hmirror]
  · rw [setArgumentWeight_of_not_mem hmem]
    exact .nil rfl

/-! ## Relations -/

/-- The number of a new relation is not in use, since the counter is beyond all numbers. -/
theorem mirrored_insertRelation {key : RelationKey} {w : Option Binary64} {id : RelationId}
    (hok : g.insertRelation key w = .ok (g', id)) : Mirrored g [.relationAdded id] g' := by
  obtain ⟨-, -, -, rfl, rfl⟩ := insertRelation_inv hok
  have hfree : g.counter.generate.1 ∉ g.mirror.relations := by
    rw [mem_mirror_relations]
    intro hmem
    obtain ⟨r, hr, hid⟩ := List.mem_map.1 hmem
    have hlt := sound.below r hr
    rw [hid] at hlt
    exact UInt64.lt_irrefl _ hlt
  refine Mirrored.single ?_
  rw [Mirror.follow?, if_neg hfree, Option.some_inj]
  ext n
  · rfl
  · rw [mem_mirror_relations]
    simp [relationIds, Graph.withRelation, mem_mirror_relations, or_comm]

end Sound

theorem mirrored_removeRelation {id : RelationId} {e : Event}
    (hok : g.removeRelation id = .ok (g', e)) : Mirrored g [e] g' := by
  obtain ⟨r, hr, rfl, rfl⟩ := removeRelation_inv hok
  obtain ⟨hmem, rfl⟩ := mem_of_relation? hr
  have hids : relationIds { g with relations := g.relations.filter (·.id ≠ r.id) } =
      g.relationIds.filter (· ≠ r.id) := by
    rw [relationIds, relationIds, List.filter_map]
    rfl
  refine Mirrored.single ?_
  rw [Mirror.follow?, if_pos (mem_mirror_relations.2 (List.mem_map_of_mem hmem)), Option.some_inj]
  ext n
  · rfl
  · rw [mem_mirror_relations, hids]
    simp [mem_mirror_relations, and_comm]

/-- A relation that is there may be told to be changed. -/
theorem mirrored_relation {id : RelationId} {r : Relation} (hr : g.relation? id = some r)
    (hmirror : g'.mirror = g.mirror) :
    Mirrored g [.relationUpdated id] g' ∧ Mirrored g [.relationMoved id] g' := by
  obtain ⟨hmem, rfl⟩ := mem_of_relation? hr
  have hthere := mem_mirror_relations.2 (List.mem_map_of_mem (f := Relation.id) hmem)
  constructor
  · refine Mirrored.single ?_
    rw [Mirror.follow?, if_pos hthere, hmirror]
  · refine Mirrored.single ?_
    rw [Mirror.follow?, if_pos hthere, hmirror]

theorem mirrored_setRelationWeight (g : Graph) (id : RelationId) (w : Option Binary64) :
    Mirrored g (g.setRelationWeight id w).2.toList (g.setRelationWeight id w).1 := by
  have hmirror := mirror_of_skeleton (skeleton_setRelationWeight g id w)
  rcases setRelationWeight_cases g id w with heq | ⟨r, hr, heq⟩
  · rw [heq]
    exact .nil rfl
  · rw [heq] at hmirror ⊢
    exact (mirrored_relation hr hmirror).1

theorem mirrored_setRelationKind {id : RelationId} {kind : RelationKind} {e : Option Event}
    (hok : g.setRelationKind id kind = .ok (g', e)) : Mirrored g e.toList g' := by
  obtain ⟨r, hr, ⟨-, rfl, rfl⟩ | ⟨-, -, rfl, rfl⟩⟩ := setRelationKind_inv hok
  · exact .nil rfl
  · have hmirror := mirror_modifyRelation g id (f := fun r => { r with kind }) fun _ => rfl
    exact (mirrored_relation hr hmirror).1

theorem mirrored_reverseRelation {id : RelationId} {e : Event}
    (hok : g.reverseRelation id = .ok (g', e)) : Mirrored g [e] g' := by
  obtain ⟨r, hr, -, rfl, rfl⟩ := reverseRelation_inv hok
  exact (mirrored_relation hr (mirror_modifyRelation g id (f := turned) fun _ => rfl)).2

end Graph

/-! ## Edits -/

namespace Edit

open Argumentation.Graph

variable {limits : Limits} {g g' : Graph}

theorem mirror_describe (g : Graph) (id : String) (description : Option String) :
    (describe g id description).1.mirror = g.mirror := by
  rcases describe_cases g id description with heq | ⟨a, -, heq⟩
  · rw [heq]
  · rw [heq]
    exact mirror_of_skeleton
      (skeleton_modifyArgument g id (f := fun a => { a with description }) fun _ => rfl)

/-- One more event that changes nothing in the mirror may be told, or be left out. -/
theorem mirrored_also {h : Graph} {es : List Event} {e : Option Event} (first : Mirrored g es g')
    (heq : h.mirror = g'.mirror) (last : Mirrored g' e.toList h) : Mirrored g (also es e) h := by
  cases e with
  | none =>
    rw [also]
    have hall := first.trans last
    rwa [Option.toList_none, List.append_nil] at hall
  | some d =>
    rw [also]
    split
    · rw [Mirrored, heq]
      exact first
    · exact first.trans last

theorem mirrored_describe (sound : g.Sound) {id : String} (hid : IsCanonical id)
    (description : Option String) :
    Mirrored g (describe g id description).2.toList (describe g id description).1 := by
  have hmirror := mirror_describe g id description
  rcases describe_cases g id description with heq | ⟨a, ha, heq⟩
  · rw [heq]
    exact .nil rfl
  · have hmem : id ∈ g.mirror.arguments := by
      rw [sound.mem_mirror_arguments, ← show canonicalId id = id from hid]
      by_contra hnot
      rw [argument?_eq_none_iff.2 hnot] at ha
      cases ha
    rw [heq] at hmirror ⊢
    refine Mirrored.single ?_
    rw [Mirror.follow?, if_pos hmem, hmirror]

theorem mirrored_redescribe {es : List Event} (first : Mirrored g es g')
    (sound : g'.Sound) {id : String} (hid : IsCanonical id) (w : Option Binary64)
    (description : Option String) :
    Mirrored g (redescribe id w description (g', es)).2 (redescribe id w description (g', es)).1 := by
  have hsound := (sound.of_skeleton (skeleton_setArgumentWeight g' id w)).1
  exact mirrored_also (first.trans (sound.mirrored_setArgumentWeight id w))
    (mirror_describe _ id description) (mirrored_describe hsound hid description)

theorem mirrored_removeAll {ids : List RelationId} {es : List Event}
    (hok : removeAll g ids = .ok (g', es)) : Mirrored g es g' := by
  induction ids generalizing g es with
  | nil =>
    cases hok
    exact .nil rfl
  | cons id ids ih =>
    obtain ⟨⟨k, e⟩, hk, hrest⟩ := exists_of_bind hok
    obtain ⟨⟨m, ds⟩, hm, heq⟩ := exists_of_bind hrest
    cases heq
    exact (mirrored_removeRelation hk).trans (ih hm)

/-- What an edit tells leads to the graph that it leaves. -/
theorem mirrored_apply (sound : g.Sound) {e : Edit} {es : List Event}
    (hok : e.apply limits g = .ok (g', es)) : Mirrored g es g' := by
  cases done_of_apply hok with
  | addArgument _ _ hinsert => exact sound.mirrored_insertArgument hinsert
  | @editArgument id newId w _ text k es _ _ hrename =>
    exact mirrored_redescribe (sound.mirrored_renameArgument hrename)
      (sound.of_renameArgument hrename).1 (isCanonical_canonicalId newId) w text
  | removeArgument hremove => exact sound.mirrored_removeArgument hremove
  | clearRelations hremove => exact mirrored_removeAll hremove
  | addRelation _ hinsert => exact sound.mirrored_insertRelation hinsert
  | @editRelation id kind w k e _ hkind =>
    exact mirrored_also (mirrored_setRelationKind hkind)
      (mirror_of_skeleton (skeleton_setRelationWeight k id w))
      (mirrored_setRelationWeight k id w)
  | reverseRelation hreverse => exact mirrored_reverseRelation hreverse
  | switchRelation _ hkind => exact mirrored_setRelationKind hkind
  | removeRelation hremove => exact mirrored_removeRelation hremove

end Edit

/-! ## Reconciliations -/

namespace Reconcile

open Argumentation.Graph

variable {place : Placement} {p q : Progress} {g : Graph} {f : Framework} {n : Nat}

theorem mirrored_step {s : Step} (hs : s.run place p = .ok q) (sound : p.graph.Sound) :
    ∃ es, q.events = p.events ++ es ∧ Mirrored p.graph es q.graph := by
  cases Step.done_of_run hs with
  | removeArgument hremove => exact ⟨_, rfl, sound.mirrored_removeArgument hremove⟩
  | removeRelation hremove => exact ⟨_, rfl, mirrored_removeRelation hremove⟩
  | weighArgument => exact ⟨_, rfl, sound.mirrored_setArgumentWeight _ _⟩
  | insertArgument _ hinsert => exact ⟨_, rfl, sound.mirrored_insertArgument hinsert⟩
  | weighRelation => exact ⟨_, rfl, mirrored_setRelationWeight p.graph _ _⟩
  | insertRelation _ hinsert => exact ⟨_, rfl, sound.mirrored_insertRelation hinsert⟩

/-- A step that is taken keeps a graph sound while there are numbers for the steps after it. -/
theorem sound_of_step {s : Step} {ss : List Step} {n : Nat} (hs : s.run place p = .ok q)
    (sound : p.graph.Sound) (hpos : 1 ≤ n)
    (hnext : p.graph.counter.next.toNat ≤ n + relationsAdded p.events)
    (room : n + relationsAdded (run place p (s :: ss)).1.events ≤ lastNumber) :
    q.graph.Sound ∧ q.graph.counter.next.toNat ≤ n + relationsAdded q.events ∧
      n + relationsAdded (run place q ss).1.events ≤ lastNumber := by
  rw [run, hs] at room
  obtain ⟨es, change, hes⟩ := Step.change_of_run hs
  obtain ⟨ds, -, hds⟩ := changes_run place q ss
  have hcount := relationsAdded_append p.events es
  have hrest := relationsAdded_append q.events ds
  rw [← hes] at hcount
  rw [← hds] at hrest
  simp only at room
  obtain ⟨hsound, hle⟩ := change.within sound (Nat.le_add_right_of_le hpos) hnext (by omega)
  exact ⟨hsound, by omega, room⟩

/-- Steps lead on from mirror to mirror, up to the one that is refused. -/
theorem mirrored_run {ss : List Step} (sound : p.graph.Sound) (hpos : 1 ≤ n)
    (hnext : p.graph.counter.next.toNat ≤ n + relationsAdded p.events)
    (room : n + relationsAdded (run place p ss).1.events ≤ lastNumber) :
    ∃ es, (run place p ss).1.events = p.events ++ es ∧
      Mirrored p.graph es (run place p ss).1.graph := by
  induction ss generalizing p with
  | nil => exact ⟨[], (List.append_nil _).symm, .nil rfl⟩
  | cons s ss ih =>
    cases hs : s.run place p with
    | error e =>
      simp only [run, hs]
      exact ⟨[], (List.append_nil _).symm, .nil rfl⟩
    | ok q =>
      obtain ⟨hsound, hcounter, hroom⟩ := sound_of_step hs sound hpos hnext room
      obtain ⟨es, hes, hstep⟩ := mirrored_step hs sound
      obtain ⟨ds, hds, hrest⟩ := ih hsound hcounter hroom
      simp only [run, hs]
      exact ⟨es ++ ds, by rw [hds, hes, List.append_assoc], hstep.trans hrest⟩

/-- Rows of steps lead on from mirror to mirror, up to the step that is refused. -/
theorem mirrored_runRows {rs : List (Graph → List Step)} (sound : p.graph.Sound) (hpos : 1 ≤ n)
    (hnext : p.graph.counter.next.toNat ≤ n + relationsAdded p.events)
    (room : n + relationsAdded (runRows place p rs).1.events ≤ lastNumber) :
    ∃ es, (runRows place p rs).1.events = p.events ++ es ∧
      Mirrored p.graph es (runRows place p rs).1.graph := by
  induction rs generalizing p with
  | nil => exact ⟨[], (List.append_nil _).symm, .nil rfl⟩
  | cons row rs ih =>
    obtain ⟨fs, changes, hfs⟩ := changes_run place p (row p.graph)
    have hrow : n + relationsAdded (run place p (row p.graph)).1.events ≤ lastNumber → _ :=
      mirrored_run sound hpos hnext
    cases hrun : run place p (row p.graph) with
    | mk q e =>
      rw [hrun] at changes hfs hrow
      dsimp only at changes hfs hrow
      cases e with
      | some e =>
        simp only [runRows, hrun] at room ⊢
        exact hrow room
      | none =>
        simp only [runRows, hrun] at room ⊢
        obtain ⟨gs, -, hgs⟩ := changes_runRows place q rs
        have hfirst := relationsAdded_append p.events fs
        have hlast := relationsAdded_append q.events gs
        rw [← hfs] at hfirst
        rw [← hgs] at hlast
        have hroom : n + relationsAdded q.events ≤ lastNumber := by omega
        obtain ⟨hsound, hcounter⟩ :=
          changes.within sound (Nat.le_add_right_of_le hpos) hnext (by omega)
        obtain ⟨es, hes, hmirrored⟩ := hrow hroom
        obtain ⟨ds, hds, hrest⟩ := ih hsound (by omega) room
        exact ⟨es ++ ds, by rw [hds, hes, List.append_assoc], hmirrored.trans hrest⟩

/-- What a reconciliation tells leads to the graph that it ends with. -/
theorem mirrored_reconcile (sound : g.Sound) (hpos : 1 ≤ n) (hnext : g.counter.next.toNat ≤ n)
    {es : List Event} (hok : (g.reconcile f place).outcome = .ok es)
    (room : n + relationsAdded es ≤ lastNumber) :
    Mirrored g es (g.reconcile f place).graph := by
  obtain ⟨p, hrun, rfl, hgraph⟩ := exists_runRows_of_ok hok
  have hroom : n + relationsAdded (runRows place { graph := g } (rows f)).1.events ≤
      lastNumber := by
    rwa [hrun]
  obtain ⟨ds, hds, hmirrored⟩ := mirrored_runRows (p := { graph := g }) sound hpos
    (Nat.le_add_right_of_le hnext) hroom
  rw [hrun, List.nil_append] at hds
  rw [hrun, ← hds] at hmirrored
  rw [hgraph]
  exact hmirrored

end Reconcile

end Argumentation
