import Argumentation.Proofs.Indexed.Changes

/-!
# Operations of indexed graphs follow those of graphs

An operation of an indexed graph that represents a sound graph does what it does to the graph:
the outcome is the same, and the indexed graph that is left represents the graph that is left.
For an operation that is refused this says that nothing has changed, so none stops half-way.
`Follows` states it for single changes.

An argument is removed after its relations, and what holds between the steps is again that a
graph is represented.  An argument is renamed by way of a graph with both identifiers.
-/

namespace Argumentation

variable {G : Type} [Arena Argument Relation G]

/-- An attempt that comes out as a change does of the graph that `x` represents. -/
inductive Attempt.Follows {α : Type} (r : Attempt G α) (x : IndexedGraph G) :
    Except Error (Graph × α) → Prop where
  /-- The change is made. -/
  | made {y : IndexedGraph G} {g' : Graph} {a : α} (h : r = ⟨y, .ok a⟩) (rep : y.Represents g') :
      r.Follows x (.ok (g', a))
  /-- The change is refused, and nothing is changed. -/
  | refused {e : Error} (h : r = ⟨x, .error e⟩) : r.Follows x (.error e)

/-- A change that is made is made of the indexed graph as well. -/
theorem Attempt.Follows.exists_of_ok {α : Type} {r : Attempt G α} {x : IndexedGraph G}
    {change : Except Error (Graph × α)} (follows : r.Follows x change) {g' : Graph} {a : α}
    (h : change = .ok (g', a)) : ∃ y, r = ⟨y, .ok a⟩ ∧ y.Represents g' := by
  subst h
  cases follows with
  | made hr rep => exact ⟨_, hr, rep⟩

/-- What holds of the graph whether a change goes on or stops. -/
theorem Attempt.graph_andThen {α β : Type} {P Q : IndexedGraph G → Prop} {r : Attempt G α}
    {next : IndexedGraph G → α → Attempt G β} (hr : P r.graph) (hstop : ∀ y, P y → Q y)
    (hnext : ∀ y a, P y → Q (next y a).graph) : Q (r.andThen next).graph := by
  obtain ⟨y, outcome⟩ := r
  cases outcome with
  | error e => exact hstop y hr
  | ok a => exact hnext y a hr

namespace IndexedGraph

open Arena

/-- A relation that is not refused is put between its ends. -/
theorem insertRelation_of_new {x : IndexedGraph G} {key : RelationKey} {w : Option Binary64}
    (hs : canonicalId key.source ∈ x.index) (ht : canonicalId key.target ∈ x.index)
    (h : x.findRelation? (Graph.canonicalKey key) = none) :
    x.insertRelation key w =
      (attach { x with counter := x.counter.generate.2 } ⟨x.counter.generate.1,
        (Graph.canonicalKey key).source, (Graph.canonicalKey key).target,
        (Graph.canonicalKey key).kind, w⟩).map fun _ => x.counter.generate.1 := by
  unfold Graph.canonicalKey at *
  unfold insertRelation
  generalize canonicalId key.source = s at *
  generalize canonicalId key.target = t at *
  simp only [hs, ht, h, not_true_eq_false, if_false, Option.isSome_none, Bool.false_eq_true]

/-- An argument that is not refused takes the place of its old self. -/
theorem renameArgument_of_new {x : IndexedGraph G} {id newId : String} {i : Nat} {a : Argument}
    (hne : canonicalId id ≠ canonicalId newId) (hnew : canonicalId newId ∉ x.index)
    (hi : x.index[canonicalId id]? = some i) (ha : node? x.arena i = some a) :
    x.renameArgument id newId =
      x.replaceArgument (canonicalId id) i { a with id := canonicalId newId } := by
  unfold renameArgument
  generalize canonicalId id = old at *
  generalize canonicalId newId = new at *
  simp only [hne, hnew, hi, ha, if_false]

/-! ## What steps leave alone -/

section Index

theorem index_removeRelations (x : IndexedGraph G) (ids : List RelationId) :
    (x.removeRelations ids).graph.index = x.index := by
  induction ids generalizing x with
  | nil => rfl
  | cons id ids ih =>
    refine Attempt.graph_andThen (P := (·.index = x.index)) (Q := (·.index = x.index)) ?_
      (fun _ h => h) fun y event hy => (ih y).trans hy
    unfold removeRelation
    cases x.edges[id.number]? with
    | none => rfl
    | some e => rfl

theorem index_reattach (x : IndexedGraph G) (e : Nat) (r : Relation) :
    (x.reattach e r).graph.index = x.index := by
  unfold reattach attach
  simp only
  split
  · rfl
  · rfl

theorem index_moveRelations (x : IndexedGraph G) (old new : String) (ids : List RelationId) :
    (x.moveRelations old new ids).graph.index = x.index := by
  induction ids generalizing x with
  | nil => rfl
  | cons id ids ih =>
    refine Attempt.graph_andThen (P := (·.index = x.index)) (Q := (·.index = x.index)) ?_
      (fun _ h => h) fun y events hy => (ih y).trans hy
    unfold moveRelation
    cases x.found? id with
    | none => rfl
    | some found => exact index_reattach x found.1 _

end Index

namespace Represents

variable {x : IndexedGraph G} {g : Graph} (rep : x.Represents g)
include rep

/-! ## Changes of single entries -/

section Entries

theorem modifyArgument [LawfulArena G] (id : String) {f : Argument → Argument}
    (hid : ∀ a, (f a).id = a.id) : (x.modifyArgument id f).Represents (g.modifyArgument id f) := by
  unfold IndexedGraph.modifyArgument Graph.modifyArgument
  generalize canonicalId id = k
  cases hi : x.index[k]? with
  | none =>
    have hsame : (g.nodes.map fun n =>
        if n.key = k then { n with argument := f n.argument } else n) = g.nodes := by
      refine (List.map_congr_left fun n hn => ?_).trans (List.map_id _)
      rw [if_neg]
      · rfl
      · rintro rfl
        exact rep.entry_eq_none_iff.1 hi (List.mem_map_of_mem hn)
    rw [hsame]
    exact rep
  | some i =>
    refine rep.overwrite (fun j a => if j = i then f a else a) ?_
      (LawfulArena.edge?_modifyNode x.arena i f) ?_
    · intro j
      rw [LawfulArena.node?_modifyNode]
      split
      · rfl
      · exact Option.map_id'.symm
    · intro j n holds
      have hslot : n.key = k ↔ j = i := by
        constructor
        · rintro rfl
          exact Option.some.inj (holds.entry.symm.trans hi)
        · rintro rfl
          exact rep.key_inj holds.entry hi
      cases decEq j i with
      | isTrue heq =>
        rw [if_pos (hslot.2 heq), if_pos heq]
        exact ⟨rfl, hid _⟩
      | isFalse hne =>
        rw [if_neg (fun h => hne (hslot.1 h)), if_neg hne]
        exact ⟨rfl, rfl⟩

theorem mapArguments [LawfulArena G] {f : Argument → Argument} (hid : ∀ a, (f a).id = a.id) :
    (x.mapArguments f).Represents (g.mapArguments f) :=
  rep.overwrite (fun _ => f) (LawfulArena.node?_mapNodes x.arena f)
    (LawfulArena.edge?_mapNodes x.arena f) fun _ n _ => ⟨rfl, hid n.argument⟩

theorem argument?_eq (id : String) : x.argument? id = g.argument? id := by
  unfold argument? Graph.argument?
  generalize canonicalId id = k
  cases hi : x.index[k]? with
  | none =>
    rw [Graph.find?_node_eq_none_iff.2 (rep.entry_eq_none_iff.1 hi)]
    rfl
  | some i =>
    obtain ⟨n, hn, hkey, holds⟩ := rep.exists_of_entry hi
    obtain ⟨m, hm, hmem, hmkey⟩ := Graph.exists_node_of_mem (List.mem_map.2 ⟨n, hn, hkey⟩)
    obtain ⟨j, -, mholds⟩ := rep.exists_slot hmem
    have hentry := mholds.entry
    rw [hmkey] at hentry
    have hij : j = i := Option.some.inj (hentry.symm.trans hi)
    rw [hm, Option.bind_some, ← hij, mholds.node]
    rfl

theorem keys_edges (sound : g.Sound) : x.edges.keys = g.relations.map (·.id.number) := by
  refine eq_of_increasing (f := fun n => n) ?_ (List.pairwise_map.2 sound.increasing) fun n => ?_
  · exact Std.TreeMap.ordered_keys.imp Std.compare_eq_lt.1
  · rw [Std.TreeMap.mem_keys, List.mem_map]
    constructor
    · exact rep.numbered n
    · rintro ⟨r, hr, rfl⟩
      obtain ⟨e, carries⟩ := rep.carried r hr
      exact exists_entry_iff.2 ⟨e, carries.entry⟩

theorem reseed (sound : g.Sound) : x.reseed.Represents g.reseed := by
  have hids : x.edges.keys.map (fun n => (⟨n⟩ : RelationId)) = g.relationIds := by
    rw [rep.keys_edges sound, List.map_map]
    rfl
  unfold IndexedGraph.reseed Graph.reseed
  rw [hids]
  exact rep.with_counter _

end Entries

/-! ## Single changes -/

section Changes

theorem follows_insertArgument [LawfulArena G] (a : Argument) :
    (x.insertArgument a).Follows x (g.insertArgument a) := by
  by_cases hmem : canonicalId a.id ∈ g.keys
  · rw [Graph.insertArgument_of_mem hmem]
    refine .refused ?_
    simp only [insertArgument, rep.mem_index_iff.2 hmem, if_true]
  · rw [Graph.insertArgument_of_not_mem hmem]
    have hindex : canonicalId a.id ∉ x.index := fun h => hmem (rep.mem_index_iff.1 h)
    refine .made ?_ (rep.addArgument (a := { a with id := canonicalId a.id }) hmem)
    simp only [insertArgument, hindex, if_false]

theorem setArgumentWeight [LawfulArena G] (id : String) (w : Option Binary64) :
    (x.setArgumentWeight id w).1.Represents (g.setArgumentWeight id w).1 ∧
      (x.setArgumentWeight id w).2 = (g.setArgumentWeight id w).2 := by
  have hset := rep.modifyArgument id (f := fun a => { a with weight := w }) fun _ => rfl
  simp only [IndexedGraph.setArgumentWeight, Graph.setArgumentWeight, rep.argument?_eq]
  cases g.argument? id with
  | none => exact ⟨rep, rfl⟩
  | some a =>
    simp only
    split
    · exact ⟨rep, rfl⟩
    · exact ⟨hset, rfl⟩

theorem attach_new [LawfulArena G] (sound : g.Sound) {key : RelationKey} (w : Option Binary64)
    (hs : key.source ∈ g.keys) (ht : key.target ∈ g.keys) :
    ∃ y, IndexedGraph.attach { x with counter := g.counter.generate.2 }
        ⟨g.counter.generate.1, key.source, key.target, key.kind, w⟩ = ⟨y, .ok ()⟩ ∧
      y.Represents (g.withRelation key w) := by
  refine (rep.with_counter g.counter.generate.2).attach hs ht fun hmem => ?_
  obtain ⟨r, hr, heq⟩ := rep.numbered _ hmem
  have hbelow := sound.below r hr
  rw [heq] at hbelow
  exact UInt64.lt_irrefl _ hbelow

theorem follows_insertRelation [LawfulArena G] (sound : g.Sound) (key : RelationKey)
    (w : Option Binary64) : (x.insertRelation key w).Follows x (g.insertRelation key w) := by
  by_cases hs : canonicalId key.source ∈ g.keys
  · by_cases ht : canonicalId key.target ∈ g.keys
    · have hsource := rep.mem_index_iff.2 hs
      have htarget := rep.mem_index_iff.2 ht
      by_cases hk : Graph.canonicalKey key ∈ g.relationKeys
      · rw [Graph.insertRelation_of_mem hs ht hk]
        have hfound := Graph.isSome_findRelation?_iff.2 hk
        rw [← rep.findRelation?_eq sound, Graph.canonicalKey] at hfound
        refine .refused ?_
        simp only [insertRelation, hsource, htarget, hfound, not_true_eq_false, if_false, if_true]
        rfl
      · rw [Graph.insertRelation_of_not_mem hs ht hk]
        have hfound := Graph.findRelation?_eq_none_iff.2 hk
        rw [← rep.findRelation?_eq sound] at hfound
        have hs : (Graph.canonicalKey key).source ∈ g.keys := hs
        have ht : (Graph.canonicalKey key).target ∈ g.keys := ht
        obtain ⟨y, hy, hrep⟩ := rep.attach_new sound w hs ht
        refine .made ?_ hrep
        rw [insertRelation_of_new hsource htarget hfound, rep.counter, hy]
        rfl
    · rw [Graph.insertRelation_of_target hs ht]
      have htarget : canonicalId key.target ∉ x.index := fun h => ht (rep.mem_index_iff.1 h)
      refine .refused ?_
      simp only [insertRelation, rep.mem_index_iff.2 hs, htarget, not_true_eq_false,
        not_false_eq_true, if_false, if_true]
  · rw [Graph.insertRelation_of_source hs]
    have hsource : canonicalId key.source ∉ x.index := fun h => hs (rep.mem_index_iff.1 h)
    refine .refused ?_
    simp only [insertRelation, hsource, not_false_eq_true, if_true]

theorem follows_removeRelation [LawfulArena G] (id : RelationId) :
    (x.removeRelation id).Follows x (g.removeRelation id) := by
  cases h : g.relation? id with
  | none =>
    rw [Graph.removeRelation_of_none h]
    refine .refused ?_
    simp only [removeRelation, rep.entry_of_none h]
  | some r =>
    rw [Graph.removeRelation_of_some h]
    obtain ⟨hr, rfl⟩ := Graph.mem_of_relation? h
    obtain ⟨e, carries⟩ := rep.carried r hr
    refine .made ?_ (rep.dropRelation carries)
    simp only [removeRelation, carries.entry]

theorem setRelationWeight [LawfulArena G] (id : RelationId) (w : Option Binary64) :
    (x.setRelationWeight id w).1.Represents (g.setRelationWeight id w).1 ∧
      (x.setRelationWeight id w).2 = (g.setRelationWeight id w).2 := by
  cases h : g.relation? id with
  | none =>
    rw [Graph.setRelationWeight_of_none h, IndexedGraph.setRelationWeight, rep.found?_of_none h]
    exact ⟨rep, rfl⟩
  | some r =>
    obtain ⟨e, s, t, hfound, carries⟩ := rep.found?_of_some h
    obtain ⟨hr, rfl⟩ := Graph.mem_of_relation? h
    have hset := rep.modifyRelation hr carries (f := fun r => { r with weight := w }) rfl rfl rfl
    rw [Graph.setRelationWeight_of_some h, IndexedGraph.setRelationWeight, hfound]
    simp only
    split
    · exact ⟨rep, rfl⟩
    · exact ⟨hset, rfl⟩

theorem follows_setRelationKind [LawfulArena G] (sound : g.Sound) (id : RelationId)
    (kind : RelationKind) : (x.setRelationKind id kind).Follows x (g.setRelationKind id kind) := by
  cases h : g.relation? id with
  | none =>
    rw [Graph.setRelationKind_of_none h]
    refine .refused ?_
    simp only [setRelationKind, rep.found?_of_none h]
  | some r =>
    obtain ⟨e, s, t, hfound, carries⟩ := rep.found?_of_some h
    obtain ⟨hr, rfl⟩ := Graph.mem_of_relation? h
    have hset := rep.modifyRelation hr carries (f := fun r => { r with kind }) rfl rfl rfl
    simp only [setRelationKind, Graph.setRelationKind, hfound, h, rep.findRelation?_eq sound]
    split
    · exact .made rfl rep
    · split
      · exact .refused rfl
      · exact .made rfl hset

theorem follows_reverseRelation [LawfulArena G] (sound : g.Sound) (id : RelationId) :
    (x.reverseRelation id).Follows x (g.reverseRelation id) := by
  cases h : g.relation? id with
  | none =>
    rw [Graph.reverseRelation_of_none h]
    refine .refused ?_
    simp only [reverseRelation, rep.found?_of_none h]
  | some r =>
    obtain ⟨e, s, t, hfound, carries⟩ := rep.found?_of_some h
    obtain ⟨hr, rfl⟩ := Graph.mem_of_relation? h
    obtain ⟨hs, ht⟩ := sound.joined r hr
    obtain ⟨y, hy, hrep⟩ := rep.reattach hr carries (q := Graph.turned r) rfl ht hs
    have hturned := sound.modifyRelation_congr hr (fun _ => Graph.turned r) Graph.turned rfl
    rw [hturned] at hrep
    have hattempt : x.reattach e { r with source := r.target, target := r.source } =
        ⟨y, .ok ()⟩ := hy
    simp only [reverseRelation, Graph.reverseRelation, hfound, h, rep.findRelation?_eq sound,
      hattempt]
    cases g.findRelation? r.key.reverse with
    | none => exact .made rfl hrep
    | some other =>
      simp only
      split
      · exact .made rfl hrep
      · exact .refused rfl

end Changes

/-! ## Arguments with their relations -/

section Compound

variable [LawfulArena G]

/-- Relations that are there go one after the other. -/
theorem removeRelations {ids : List RelationId} (hmem : ∀ id ∈ ids, ∃ r ∈ g.relations, r.id = id)
    (hnodup : ids.Nodup) :
    ∃ y, x.removeRelations ids = ⟨y, .ok (ids.map .relationRemoved)⟩ ∧
      y.Represents { g with relations := g.relations.filter (·.id ∉ ids) } := by
  induction ids generalizing x g with
  | nil =>
    have hall : g.relations.filter (·.id ∉ ([] : List RelationId)) = g.relations := by simp
    rw [hall]
    exact ⟨x, rfl, rep⟩
  | cons id ids ih =>
    rw [List.nodup_cons] at hnodup
    obtain ⟨r, hr, rfl⟩ := hmem id List.mem_cons_self
    obtain ⟨e, carries⟩ := rep.carried r hr
    have hrest : ∀ id ∈ ids, ∃ q ∈ g.relations.filter (·.id ≠ r.id), q.id = id := by
      intro id hid
      obtain ⟨q, hq, rfl⟩ := hmem id (List.mem_cons_of_mem _ hid)
      have hne : q.id ≠ r.id := fun heq => hnodup.1 (heq ▸ hid)
      exact ⟨q, List.mem_filter.2 ⟨hq, by simpa using hne⟩, rfl⟩
    have hremaining : (g.relations.filter (·.id ≠ r.id)).filter (·.id ∉ ids) =
        g.relations.filter (·.id ∉ r.id :: ids) := by
      rw [List.filter_filter]
      exact List.filter_congr fun q _ => by simp [Bool.and_comm]
    obtain ⟨y, hy, hrep⟩ := ih (rep.dropRelation carries) hrest hnodup.2
    simp only [hremaining] at hrep
    refine ⟨y, ?_, hrep⟩
    simp only [IndexedGraph.removeRelations, removeRelation, carries.entry, Attempt.andThen, hy]
    rfl

theorem follows_removeArgument (sound : g.Sound) (id : String) :
    (x.removeArgument id).Follows x (g.removeArgument id) := by
  have hcanonical : canonicalId (canonicalId id) = canonicalId id := isCanonical_canonicalId id
  by_cases hmem : canonicalId id ∈ g.keys
  · rw [Graph.removeArgument_of_mem hmem]
    unfold IndexedGraph.removeArgument
    generalize canonicalId id = k at *
    obtain ⟨i, hi⟩ := exists_entry_iff.1 (rep.mem_index_iff.2 hmem)
    have hthere : ∀ n ∈ g.incident k, ∃ r ∈ g.relations, r.id = n :=
      fun _ => Graph.exists_of_mem_incident
    obtain ⟨y, hy, hrep⟩ := rep.removeRelations hthere (sound.nodup_incident _)
    rw [sound.filter_not_mem_incident, hcanonical] at hrep
    have hindex := index_removeRelations x (g.incident k)
    rw [hy] at hindex
    have hfree : ∀ r ∈ g.relations.filter (!Graph.touches k ·), r.source ≠ k ∧ r.target ≠ k := by
      intro r hr
      simpa [Graph.touches] using (List.mem_filter.1 hr).2
    refine .made ?_ (hrep.dropArgument (hindex ▸ hi) hfree)
    simp only [hi, rep.incident_eq sound, hy, Attempt.andThen]
  · rw [Graph.removeArgument_of_not_mem hmem]
    refine .refused ?_
    simp only [IndexedGraph.removeArgument, rep.entry_eq_none_iff.2 hmem]

/-- Relations that are there are moved one after the other. -/
theorem moveRelations {old new : String} (hnew : new ∈ g.keys) {ids : List RelationId}
    (hmem : ∀ id ∈ ids, ∃ r ∈ g.relations, r.id = id) (hnodup : ids.Nodup) :
    ∃ y, x.moveRelations old new ids = ⟨y, .ok (ids.map .relationMoved)⟩ ∧
      y.Represents { g with
        relations := g.relations.map fun r =>
          if r.id ∈ ids then Graph.renameEnds old new r else r } := by
  induction ids generalizing x g with
  | nil =>
    have hall : (g.relations.map fun r =>
        if r.id ∈ ([] : List RelationId) then Graph.renameEnds old new r else r) = g.relations := by
      simp
    rw [hall]
    exact ⟨x, rfl, rep⟩
  | cons id ids ih =>
    rw [List.nodup_cons] at hnodup
    obtain ⟨r, hr, rfl⟩ := hmem id List.mem_cons_self
    obtain ⟨e, s, t, hfound, carries⟩ := rep.found?_of_mem hr
    obtain ⟨hsource, htarget⟩ := rep.ends_mem hr
    have hend {k : String} (hk : k ∈ g.keys) : (if k = old then new else k) ∈ g.keys := by
      split
      · exact hnew
      · exact hk
    obtain ⟨z, hz, hmoved⟩ := rep.reattach hr carries (q := Graph.renameEnds old new r) rfl
      (hend hsource) (hend htarget)
    have hrest : ∀ id ∈ ids, ∃ q ∈ (g.modifyRelation r.id fun _ =>
        Graph.renameEnds old new r).relations, q.id = id := by
      intro id hid
      obtain ⟨q, hq, rfl⟩ := hmem id (List.mem_cons_of_mem _ hid)
      have hne : q.id ≠ r.id := fun heq => hnodup.1 (heq ▸ hid)
      exact ⟨q, List.mem_map.2 ⟨q, hq, if_neg hne⟩, rfl⟩
    obtain ⟨y, hy, hrep⟩ := ih hmoved hnew hrest hnodup.2
    have hall : ((g.modifyRelation r.id fun _ => Graph.renameEnds old new r).relations.map fun q =>
          if q.id ∈ ids then Graph.renameEnds old new q else q) =
        g.relations.map fun q =>
          if q.id ∈ r.id :: ids then Graph.renameEnds old new q else q := by
      rw [Graph.modifyRelation, List.map_map]
      refine List.map_congr_left fun q hq => ?_
      rw [Function.comp_apply]
      cases decEq q.id r.id with
      | isTrue heq =>
        rw [if_pos heq, rep.eq_of_id_eq hq hr heq, if_neg, if_pos List.mem_cons_self]
        exact hnodup.1
      | isFalse hne => simp [hne]
    rw [hall] at hrep
    refine ⟨y, ?_, hrep⟩
    simp only [IndexedGraph.moveRelations, moveRelation, hfound, hz, Attempt.map, Except.map,
      Attempt.andThen, hy]
    rfl

/-- The second argument is there before the first one goes. -/
theorem replaceArgument (sound : g.Sound) {n : Node} (hn : n ∈ g.nodes) {i : Nat}
    (holds : x.Holds i n) {a : Argument} (hcanonical : IsCanonical a.id) (hnew : a.id ∉ g.keys) :
    ∃ y, x.replaceArgument n.key i a = ⟨y, .ok (.argumentRenamed n.key a.id ::
        (g.incident n.key).map .relationMoved)⟩ ∧
      y.Represents { g with
        nodes := g.nodes.filter (·.key ≠ n.key) ++ [⟨a.id, a⟩]
        relations := g.relations.map (Graph.renameEnds n.key a.id) } := by
  have hmem : n.key ∈ g.keys := List.mem_map_of_mem hn
  have hne : n.key ≠ a.id := fun heq => hnew (heq ▸ hmem)
  have hadded := rep.addArgument hnew
  have hincident : (x.addArgument a).incident n.key = g.incident n.key :=
    hadded.incident_eq (sound.append_node rfl hcanonical hnew) n.key
  have hlast : a.id ∈ Graph.keys { g with nodes := g.nodes ++ [⟨a.id, a⟩] } := by
    simp [Graph.keys]
  have hthere : ∀ m ∈ g.incident n.key, ∃ r ∈ g.relations, r.id = m :=
    fun _ => Graph.exists_of_mem_incident
  obtain ⟨y, hy, hrep⟩ := hadded.moveRelations hlast hthere (sound.nodup_incident _)
  have hfree : ∀ r ∈ g.relations.map (Graph.renameEnds n.key a.id),
      r.source ≠ n.key ∧ r.target ≠ n.key := by
    intro r hr
    obtain ⟨q, -, rfl⟩ := List.mem_map.1 hr
    exact Graph.ends_renameEnds hne q
  have hi : y.index[n.key]? = some i := by
    have hindex := index_moveRelations (x.addArgument a) n.key a.id (g.incident n.key)
    rw [hy] at hindex
    rw [hindex, IndexedGraph.addArgument, getElem?_insert_eq, if_neg hne, holds.entry]
  have hnodes : (g.nodes ++ [Node.mk a.id a]).filter (·.key ≠ n.key) =
      g.nodes.filter (·.key ≠ n.key) ++ [Node.mk a.id a] := by
    rw [List.filter_append, List.filter_cons_of_pos (by simpa using hne.symm), List.filter_nil]
  rw [← hnodes]
  rw [← sound.map_incident_renameEnds hmem] at hfree ⊢
  refine ⟨y.dropArgument n.key i, ?_, hrep.dropArgument hi hfree⟩
  simp only [IndexedGraph.replaceArgument, hincident, hy, Attempt.andThen]

theorem follows_renameArgument (sound : g.Sound) (id newId : String) :
    (x.renameArgument id newId).Follows x (g.renameArgument id newId) := by
  by_cases heq : canonicalId id = canonicalId newId
  · rw [Graph.renameArgument_of_eq heq]
    refine .made ?_ rep
    simp only [IndexedGraph.renameArgument, heq, if_true]
  · by_cases hnew : canonicalId newId ∈ g.keys
    · rw [Graph.renameArgument_of_mem heq hnew]
      refine .refused ?_
      simp only [IndexedGraph.renameArgument, heq, rep.mem_index_iff.2 hnew, if_false, if_true]
    · have hindex : canonicalId newId ∉ x.index := fun h => hnew (rep.mem_index_iff.1 h)
      by_cases hold : canonicalId id ∈ g.keys
      · obtain ⟨n, hn, hmem, hkey⟩ := Graph.exists_node_of_mem hold
        obtain ⟨i, -, holds⟩ := rep.exists_slot hmem
        have hreplace {new : String} (hcanonical : IsCanonical new) (hfree : new ∉ g.keys) :
            ∃ y, x.replaceArgument n.key i { n.argument with id := new } =
              ⟨y, .ok (.argumentRenamed n.key new :: (g.incident n.key).map .relationMoved)⟩ ∧
                y.Represents (g.renamed n new) :=
          rep.replaceArgument sound hmem holds hcanonical hfree
        obtain ⟨y, hy, hrep⟩ := hreplace (isCanonical_canonicalId newId) hnew
        have hentry := holds.entry
        rw [hkey] at hentry hy
        rw [Graph.renameArgument_of_ne heq hnew hn]
        refine .made ?_ hrep
        rw [renameArgument_of_new heq hindex hentry holds.node, hy]
      · rw [Graph.renameArgument_of_not_mem heq hnew hold]
        refine .refused ?_
        simp only [IndexedGraph.renameArgument, heq, hindex, rep.entry_eq_none_iff.2 hold, if_false]

end Compound

end Represents

end IndexedGraph

end Argumentation
