import Argumentation.Proofs.Indexed.Represents

/-!
# What the steps of indexed graphs do

A change of an indexed graph takes steps of a few kinds: an argument is put at the end or taken
out, arguments or relations are overwritten in their slots, a relation is put between its ends,
taken out, or both.  Each step keeps the four structures together and does to the represented
graph what it says.  In between a graph may have an argument under two identifiers; it is
represented all the same.
-/

namespace Argumentation.IndexedGraph

open Arena

variable {G : Type} [Arena Argument Relation G] {x y : IndexedGraph G} {g : Graph}

/-- An indexed graph with a relation between two slots. -/
def withEdge (x : IndexedGraph G) (s t : Nat) (r : Relation) : IndexedGraph G :=
  { x with
    arena := (addEdge x.arena s t r).2
    edges := x.edges.insert r.id.number (addEdge x.arena s t r).1 }

namespace Carries

variable {e e' : Nat} {q r : Relation}

/-- A relation stays in its slot while its slot, its entry and the entries of its ends do. -/
theorem imp (carries : x.Carries e r) (hedge : edge? y.arena e = edge? x.arena e)
    (hends : ∀ k i, k = r.source ∨ k = r.target → x.index[k]? = some i → y.index[k]? = some i)
    (hentry : y.edges[r.id.number]? = x.edges[r.id.number]?) : y.Carries e r := by
  obtain ⟨s, t, hst, hs, ht⟩ := carries.edge
  refine ⟨⟨s, t, hedge.trans hst, hends _ _ (Or.inl rfl) hs, hends _ _ (Or.inr rfl) ht⟩, ?_⟩
  rw [hentry, carries.entry]

theorem relation_inj (hq : x.Carries e q) (hr : x.Carries e r) : q = r := by
  obtain ⟨s, t, hst, -, -⟩ := hq.edge
  obtain ⟨s', t', hst', -, -⟩ := hr.edge
  rw [hst] at hst'
  cases hst'
  rfl

theorem slot_inj (hq : x.Carries e q) (hr : x.Carries e' r) (h : q.id = r.id) : e = e' := by
  have hentry := hq.entry
  rw [h, hr.entry] at hentry
  exact (Option.some.inj hentry).symm

end Carries

namespace Represents

variable (rep : x.Represents g)
include rep

theorem eq_of_id_eq {q r : Relation} (hq : q ∈ g.relations) (hr : r ∈ g.relations)
    (h : q.id = r.id) : q = r := by
  obtain ⟨e, qcarries⟩ := rep.carried q hq
  obtain ⟨e', rcarries⟩ := rep.carried r hr
  cases qcarries.slot_inj rcarries h
  exact qcarries.relation_inj rcarries

/-! ## Parts that do not matter -/

/-- A change of the relations leaves the arguments and their index alone. -/
theorem relink {rs : List Relation} (hnode : ∀ i, node? y.arena i = node? x.arena i)
    (hindex : y.index = x.index) (horder : y.order = x.order) (hcounter : y.counter = x.counter)
    (carried : ∀ r ∈ rs, ∃ e, y.Carries e r)
    (joined : ∀ e d, edge? y.arena e = some d → d.weight ∈ rs ∧ y.Carries e d.weight)
    (numbered : ∀ n ∈ y.edges, ∃ r ∈ rs, r.id.number = n) :
    y.Represents { g with relations := rs } where
  order := by
    rw [horder]
    exact rep.order.imp fun i n holds =>
      ⟨(hnode i).trans holds.node, hindex ▸ holds.entry, holds.keyed⟩
  taken i a hi := horder ▸ rep.taken i a ((hnode i).symm.trans hi)
  indexed id hid := rep.indexed id (hindex ▸ hid)
  carried := carried
  joined := joined
  numbered := numbered
  counter := hcounter.trans rep.counter

/-- The order of the relations is that of their numbers anyway. -/
theorem of_relations {rs : List Relation} (h : ∀ r, r ∈ rs ↔ r ∈ g.relations) :
    x.Represents { g with relations := rs } := by
  refine rep.relink (fun _ => rfl) rfl rfl rfl ?carried ?joined ?numbered
  case carried => exact fun r hr => rep.carried r ((h r).1 hr)
  case joined => exact fun e d hd => (rep.joined e d hd).imp_left (h _).2
  case numbered =>
    intro n hn
    obtain ⟨r, hr, heq⟩ := rep.numbered n hn
    exact ⟨r, (h r).2 hr, heq⟩

/-- An index is what it leads to. -/
theorem of_edges {m : Std.TreeMap UInt64 Nat} (h : ∀ n : UInt64, m[n]? = x.edges[n]?) :
    ({ x with edges := m } : IndexedGraph G).Represents g := by
  have hcarries {e : Nat} {r : Relation} (carries : x.Carries e r) :
      ({ x with edges := m } : IndexedGraph G).Carries e r :=
    carries.imp rfl (fun _ _ _ hk => hk) (h _)
  refine rep.relink (fun _ => rfl) rfl rfl rfl ?carried ?joined ?numbered
  case carried =>
    intro r hr
    obtain ⟨e, carries⟩ := rep.carried r hr
    exact ⟨e, hcarries carries⟩
  case joined => exact fun e d hd => (rep.joined e d hd).imp_right hcarries
  case numbered =>
    intro n hn
    obtain ⟨e, he⟩ := exists_entry_iff.1 hn
    exact rep.numbered n (exists_entry_iff.2 ⟨e, (h n).symm.trans he⟩)

theorem with_counter (c : RelationCounter) :
    ({ x with counter := c } : IndexedGraph G).Represents { g with counter := c } where
  order := rep.order.imp fun _ _ holds => ⟨holds.node, holds.entry, holds.keyed⟩
  taken := rep.taken
  indexed := rep.indexed
  carried r hr := by
    obtain ⟨e, carries⟩ := rep.carried r hr
    exact ⟨e, carries.imp rfl (fun _ _ _ hk => hk) rfl⟩
  joined e d hd :=
    ⟨(rep.joined e d hd).1, (rep.joined e d hd).2.imp rfl (fun _ _ _ hk => hk) rfl⟩
  numbered := rep.numbered
  counter := rfl

/-! ## Arguments -/

/-- Arguments are overwritten in their slots.  They keep their identifiers. -/
theorem overwrite {arena : G} (change : Nat → Argument → Argument) {update : Node → Node}
    (hnode : ∀ i, node? arena i = (node? x.arena i).map (change i))
    (hedge : ∀ e, edge? arena e = edge? x.arena e)
    (hupdate : ∀ i n, x.Holds i n → update n = ⟨n.key, change i n.argument⟩ ∧
      (change i n.argument).id = n.argument.id) :
    ({ x with arena } : IndexedGraph G).Represents { g with nodes := g.nodes.map update } := by
  have hcarries {e : Nat} {r : Relation} (carries : x.Carries e r) :
      ({ x with arena } : IndexedGraph G).Carries e r :=
    carries.imp (hedge e) (fun _ _ _ hk => hk) rfl
  constructor
  case order =>
    refine List.forall₂_map_right_iff.2 (rep.order.imp fun i n holds => ?_)
    obtain ⟨hn, hid⟩ := hupdate i n holds
    rw [hn]
    refine ⟨?_, holds.entry, hid.trans holds.keyed⟩
    rw [hnode, holds.node]
    rfl
  case taken =>
    intro i b hi
    rw [hnode] at hi
    obtain ⟨a, ha, -⟩ := Option.map_eq_some_iff.1 hi
    exact rep.taken i a ha
  case indexed =>
    intro id hid
    obtain ⟨i, hi⟩ := exists_entry_iff.1 hid
    obtain ⟨n, hn, rfl, holds⟩ := rep.exists_of_entry hi
    have hkey : (update n).key = n.key := by rw [(hupdate i n holds).1]
    rw [← hkey]
    exact List.mem_map_of_mem (List.mem_map_of_mem hn)
  case carried =>
    intro r hr
    obtain ⟨e, carries⟩ := rep.carried r hr
    exact ⟨e, hcarries carries⟩
  case joined =>
    intro e d hd
    rw [hedge] at hd
    exact ⟨(rep.joined e d hd).1, hcarries (rep.joined e d hd).2⟩
  case numbered => exact rep.numbered
  case counter => exact rep.counter

variable [LawfulArena G]

/-- An argument is put at the end. -/
theorem addArgument {a : Argument} (hnew : a.id ∉ g.keys) :
    (x.addArgument a).Represents { g with nodes := g.nodes ++ [⟨a.id, a⟩] } := by
  have hvacant := LawfulArena.vacant_addNode x.arena a
  have hstay {k : String} {i : Nat} (hk : x.index[k]? = some i) :
      (x.addArgument a).index[k]? = some i := by
    have hne : k ≠ a.id := by
      rintro rfl
      rw [rep.entry_eq_none_iff.2 hnew] at hk
      cases hk
    rw [IndexedGraph.addArgument, getElem?_insert_eq, if_neg hne, hk]
  have hholds {i : Nat} {n : Node} (holds : x.Holds i n) : (x.addArgument a).Holds i n := by
    have hne : i ≠ (addNode x.arena a).1 := by
      rintro rfl
      exact nomatch hvacant.symm.trans holds.node
    refine ⟨?_, hstay holds.entry, holds.keyed⟩
    rw [IndexedGraph.addArgument, LawfulArena.node?_addNode, if_neg hne, holds.node]
  have hadded : (x.addArgument a).Holds (addNode x.arena a).1 ⟨a.id, a⟩ := by
    refine ⟨?_, ?_, rfl⟩
    · rw [IndexedGraph.addArgument, LawfulArena.node?_addNode, if_pos rfl]
    · rw [IndexedGraph.addArgument, getElem?_insert_eq, if_pos rfl]
  have hcarries {e : Nat} {r : Relation} (carries : x.Carries e r) :
      (x.addArgument a).Carries e r :=
    carries.imp (LawfulArena.edge?_addNode x.arena a e) (fun _ _ _ => hstay) rfl
  constructor
  case order => exact List.rel_append (rep.order.imp fun _ _ => hholds) (.cons hadded .nil)
  case taken =>
    intro i b hi
    rw [IndexedGraph.addArgument, LawfulArena.node?_addNode] at hi
    rw [IndexedGraph.addArgument, List.mem_append, List.mem_singleton]
    split at hi
    · next heq => exact Or.inr heq
    · exact Or.inl (rep.taken i b hi)
  case indexed =>
    intro id hid
    rw [IndexedGraph.addArgument, Std.TreeMap.mem_insert, Std.compare_eq_iff_eq] at hid
    rw [Graph.keys, List.map_append, List.mem_append, List.map_singleton, List.mem_singleton]
    exact hid.symm.imp (rep.indexed id) Eq.symm
  case carried =>
    intro r hr
    obtain ⟨e, carries⟩ := rep.carried r hr
    exact ⟨e, hcarries carries⟩
  case joined =>
    intro e d hd
    rw [IndexedGraph.addArgument, LawfulArena.edge?_addNode] at hd
    exact ⟨(rep.joined e d hd).1, hcarries (rep.joined e d hd).2⟩
  case numbered => exact rep.numbered
  case counter => exact rep.counter

/-- An argument that no relation needs is taken out of its slot. -/
theorem dropArgument {id : String} {i : Nat} (hi : x.index[id]? = some i)
    (hfree : ∀ r ∈ g.relations, r.source ≠ id ∧ r.target ≠ id) :
    (x.dropArgument id i).Represents { g with nodes := g.nodes.filter (·.key ≠ id) } := by
  have hstay {k : String} {j : Nat} (hne : k ≠ id) (hk : x.index[k]? = some j) :
      (x.dropArgument id i).index[k]? = some j := by
    rw [IndexedGraph.dropArgument, getElem?_erase_eq, if_neg hne, hk]
  have hother {k : String} {j : Nat} (hne : k ≠ id) (hk : x.index[k]? = some j) : j ≠ i := by
    rintro rfl
    exact hne (rep.key_inj hk hi)
  have hholds {j : Nat} {n : Node} (hne : n.key ≠ id) (holds : x.Holds j n) :
      (x.dropArgument id i).Holds j n := by
    refine ⟨?_, hstay hne holds.entry, holds.keyed⟩
    rw [IndexedGraph.dropArgument, LawfulArena.node?_removeNode, if_neg (hother hne holds.entry),
      holds.node]
  have horder {l : List Nat} {m : List Node} (h : List.Forall₂ x.Holds l m) :
      List.Forall₂ (x.dropArgument id i).Holds (l.filter (· ≠ i)) (m.filter (·.key ≠ id)) := by
    induction h with
    | nil => exact .nil
    | @cons j n l m holds _ ih =>
      cases decEq n.key id with
      | isTrue heq =>
        have hj : j = i := Option.some.inj ((heq ▸ holds.entry).symm.trans hi)
        simpa [heq, hj] using ih
      | isFalse hne =>
        have hj := hother hne holds.entry
        rw [List.filter_cons_of_pos (by simpa using hj),
          List.filter_cons_of_pos (by simpa using hne)]
        exact .cons (hholds hne holds) ih
  have hcarries {e : Nat} {r : Relation} (hr : r ∈ g.relations) (carries : x.Carries e r) :
      (x.dropArgument id i).Carries e r := by
    obtain ⟨hs, ht⟩ := hfree r hr
    obtain ⟨s, t, hst, hsource, htarget⟩ := carries.edge
    refine ⟨⟨s, t, ?_, hstay hs hsource, hstay ht htarget⟩, carries.entry⟩
    rw [IndexedGraph.dropArgument, LawfulArena.edge?_removeNode, hst]
    simp [ArenaEdge.touches, hother hs hsource, hother ht htarget]
  constructor
  case order => exact horder rep.order
  case taken =>
    intro j b hj
    rw [IndexedGraph.dropArgument, LawfulArena.node?_removeNode] at hj
    split at hj
    · cases hj
    · next hne => exact List.mem_filter.2 ⟨rep.taken j b hj, by simpa using hne⟩
  case indexed =>
    intro k hk
    rw [IndexedGraph.dropArgument, Std.TreeMap.mem_erase, ne_eq, Std.compare_eq_iff_eq] at hk
    obtain ⟨n, hn, rfl⟩ := List.mem_map.1 (rep.indexed k hk.2)
    exact List.mem_map_of_mem (List.mem_filter.2 ⟨hn, by simpa using Ne.symm hk.1⟩)
  case carried =>
    intro r hr
    obtain ⟨e, carries⟩ := rep.carried r hr
    exact ⟨e, hcarries hr carries⟩
  case joined =>
    intro e d hd
    rw [IndexedGraph.dropArgument, LawfulArena.edge?_removeNode, Option.filter_eq_some_iff] at hd
    obtain ⟨hmem, carries⟩ := rep.joined e d hd.1
    exact ⟨hmem, hcarries hmem carries⟩
  case numbered => exact rep.numbered
  case counter => exact rep.counter

/-! ## Relations -/

theorem withEdge {r : Relation} {s t : Nat} (hsource : x.index[r.source]? = some s)
    (htarget : x.index[r.target]? = some t) (hnew : r.id.number ∉ x.edges) :
    (x.withEdge s t r).Represents { g with relations := g.relations ++ [r] } := by
  have htaken {k : String} {i : Nat} (hk : x.index[k]? = some i) : (node? x.arena i).isSome := by
    obtain ⟨n, -, -, holds⟩ := rep.exists_of_entry hk
    rw [holds.node]
    rfl
  have hvacant := LawfulArena.vacant_addEdge x.arena s t r (htaken hsource) (htaken htarget)
  have hedge (e : Nat) :=
    LawfulArena.edge?_addEdge x.arena s t r e (htaken hsource) (htaken htarget)
  have hnode (i : Nat) :=
    LawfulArena.node?_addEdge x.arena s t r i (htaken hsource) (htaken htarget)
  have hold {e : Nat} {q : Relation} (carries : x.Carries e q) :
      (x.withEdge s t r).Carries e q := by
    refine carries.imp ?_ (fun _ _ _ hk => hk) ?_
    · rw [IndexedGraph.withEdge, hedge, if_neg]
      rintro rfl
      obtain ⟨s', t', hst, -, -⟩ := carries.edge
      rw [hvacant] at hst
      cases hst
    · rw [IndexedGraph.withEdge, getElem?_insert_eq, if_neg]
      intro heq
      exact hnew (exists_entry_iff.2 ⟨e, heq ▸ carries.entry⟩)
  have hadded : (x.withEdge s t r).Carries (addEdge x.arena s t r).1 r := by
    refine ⟨⟨s, t, ?_, hsource, htarget⟩, ?_⟩
    · rw [IndexedGraph.withEdge, hedge, if_pos rfl]
    · rw [IndexedGraph.withEdge, getElem?_insert_eq, if_pos rfl]
  refine rep.relink hnode rfl rfl rfl ?carried ?joined ?numbered
  case carried =>
    intro q hq
    rcases List.mem_append.1 hq with hq | hq
    · obtain ⟨e, carries⟩ := rep.carried q hq
      exact ⟨e, hold carries⟩
    · rw [List.mem_singleton.1 hq]
      exact ⟨_, hadded⟩
  case joined =>
    intro e d hd
    rw [IndexedGraph.withEdge, hedge] at hd
    split at hd
    · next heq =>
      cases hd
      rw [heq]
      exact ⟨List.mem_append_right _ (List.mem_singleton.2 rfl), hadded⟩
    · obtain ⟨hmem, carries⟩ := rep.joined e d hd
      exact ⟨List.mem_append_left _ hmem, hold carries⟩
  case numbered =>
    intro n hn
    rw [IndexedGraph.withEdge, Std.TreeMap.mem_insert, Std.compare_eq_iff_eq] at hn
    rcases hn with heq | hn
    · exact ⟨r, List.mem_append_right _ (List.mem_singleton.2 rfl), heq⟩
    · obtain ⟨q, hq, heq⟩ := rep.numbered n hn
      exact ⟨q, List.mem_append_left _ hq, heq⟩

/-- A relation of a new number is put between its ends. -/
theorem attach {r : Relation} (hs : r.source ∈ g.keys) (ht : r.target ∈ g.keys)
    (hnew : r.id.number ∉ x.edges) :
    ∃ y, x.attach r = ⟨y, .ok ()⟩ ∧
      y.Represents { g with relations := g.relations ++ [r] } := by
  obtain ⟨s, hsource⟩ := exists_entry_iff.1 (rep.mem_index_iff.2 hs)
  obtain ⟨t, htarget⟩ := exists_entry_iff.1 (rep.mem_index_iff.2 ht)
  refine ⟨x.withEdge s t r, ?_, rep.withEdge hsource htarget hnew⟩
  simp only [IndexedGraph.attach, hsource, htarget, IndexedGraph.withEdge]

/-- A relation is taken out of its slot. -/
theorem dropRelation {r : Relation} {e : Nat} (carries : x.Carries e r) :
    (x.dropRelation r.id e).Represents
      { g with relations := g.relations.filter (·.id ≠ r.id) } := by
  have hstay {e' : Nat} {q : Relation} (hne : q.id ≠ r.id) (hq : x.Carries e' q) :
      (x.dropRelation r.id e).Carries e' q := by
    refine hq.imp ?_ (fun _ _ _ hk => hk) ?_
    · rw [IndexedGraph.dropRelation, LawfulArena.edge?_removeEdge, if_neg]
      rintro rfl
      exact hne (congrArg Relation.id (hq.relation_inj carries))
    · rw [IndexedGraph.dropRelation, getElem?_erase_eq, if_neg]
      exact fun heq => hne (RelationId.eq_of_number heq)
  have hnode := LawfulArena.node?_removeEdge x.arena e
  refine rep.relink hnode rfl rfl rfl ?carried ?joined ?numbered
  case carried =>
    intro q hq
    obtain ⟨hmem, hne⟩ := List.mem_filter.1 hq
    obtain ⟨e', hcarries⟩ := rep.carried q hmem
    exact ⟨e', hstay (by simpa using hne) hcarries⟩
  case joined =>
    intro e' d hd
    rw [IndexedGraph.dropRelation, LawfulArena.edge?_removeEdge] at hd
    split at hd
    · cases hd
    · next hslot =>
      obtain ⟨hmem, hcarries⟩ := rep.joined e' d hd
      have hne : d.weight.id ≠ r.id := fun heq => hslot (hcarries.slot_inj carries heq)
      exact ⟨List.mem_filter.2 ⟨hmem, by simpa using hne⟩, hstay hne hcarries⟩
  case numbered =>
    intro n hn
    rw [IndexedGraph.dropRelation, Std.TreeMap.mem_erase, ne_eq, Std.compare_eq_iff_eq] at hn
    obtain ⟨q, hq, rfl⟩ := rep.numbered n hn.2
    have hne : q.id ≠ r.id := fun heq => hn.1 (congrArg RelationId.number heq.symm)
    exact ⟨q, List.mem_filter.2 ⟨hq, by simpa using hne⟩, rfl⟩

/-- A relation is overwritten in its slot.  It keeps its number and its ends. -/
theorem modifyRelation {r : Relation} {e : Nat} (hr : r ∈ g.relations) (carries : x.Carries e r)
    {f : Relation → Relation} (hid : (f r).id = r.id) (hsource : (f r).source = r.source)
    (htarget : (f r).target = r.target) :
    (x.modifyRelation e f).Represents (g.modifyRelation r.id f) := by
  have hmap {q : Relation} (hq : q ∈ g.relations) :
      (if q.id = r.id then f q else q) ∈ (g.modifyRelation r.id f).relations :=
    List.mem_map_of_mem hq
  have hstay {e' : Nat} {q : Relation} (hne : q.id ≠ r.id) (hq : x.Carries e' q) :
      (x.modifyRelation e f).Carries e' q := by
    refine hq.imp ?_ (fun _ _ _ hk => hk) rfl
    rw [IndexedGraph.modifyRelation, LawfulArena.edge?_modifyEdge, if_neg]
    rintro rfl
    exact hne (congrArg Relation.id (hq.relation_inj carries))
  have hchanged : (x.modifyRelation e f).Carries e (f r) := by
    obtain ⟨s, t, hst, hs, ht⟩ := carries.edge
    refine ⟨⟨s, t, ?_, by rwa [hsource], by rwa [htarget]⟩, by rw [hid]; exact carries.entry⟩
    rw [IndexedGraph.modifyRelation, LawfulArena.edge?_modifyEdge, if_pos rfl, hst]
    rfl
  have hmem : f r ∈ (g.modifyRelation r.id f).relations := by
    have hchange := hmap hr
    rwa [if_pos rfl] at hchange
  have hnode := LawfulArena.node?_modifyEdge x.arena e f
  refine rep.relink hnode rfl rfl rfl ?carried ?joined ?numbered
  case carried =>
    intro q hq
    obtain ⟨p, hp, rfl⟩ := List.mem_map.1 hq
    cases decEq p.id r.id with
    | isTrue heq =>
      rw [if_pos heq, rep.eq_of_id_eq hp hr heq]
      exact ⟨e, hchanged⟩
    | isFalse hne =>
      rw [if_neg hne]
      obtain ⟨e', hcarries⟩ := rep.carried p hp
      exact ⟨e', hstay hne hcarries⟩
  case joined =>
    intro e' d hd
    rw [IndexedGraph.modifyRelation, LawfulArena.edge?_modifyEdge] at hd
    split at hd
    · next heq =>
      obtain ⟨d', hd', rfl⟩ := Option.map_eq_some_iff.1 hd
      rw [heq] at hd' ⊢
      rw [(rep.joined e d' hd').2.relation_inj carries]
      exact ⟨hmem, hchanged⟩
    · next hslot =>
      obtain ⟨hold, hcarries⟩ := rep.joined e' d hd
      have hne : d.weight.id ≠ r.id := fun heq => hslot (hcarries.slot_inj carries heq)
      have hsame := hmap hold
      rw [if_neg hne] at hsame
      exact ⟨hsame, hstay hne hcarries⟩
  case numbered =>
    intro n hn
    obtain ⟨q, hq, rfl⟩ := rep.numbered n hn
    refine ⟨_, hmap hq, ?_⟩
    split
    · next heq => rw [rep.eq_of_id_eq hq hr heq, hid]
    · rfl

/-- A relation is taken out of its slot and put between its new ends. -/
theorem reattach {q r : Relation} {e : Nat} (hr : r ∈ g.relations) (carries : x.Carries e r)
    (hid : q.id = r.id) (hs : q.source ∈ g.keys) (ht : q.target ∈ g.keys) :
    ∃ y, x.reattach e q = ⟨y, .ok ()⟩ ∧
      y.Represents (g.modifyRelation r.id fun _ => q) := by
  have hnew : q.id.number ∉ (x.dropRelation r.id e).edges := by
    rw [IndexedGraph.dropRelation, Std.TreeMap.mem_erase, ne_eq, Std.compare_eq_iff_eq, hid]
    exact fun h => h.1 rfl
  have hrelations (p : Relation) : p ∈ (g.modifyRelation r.id fun _ => q).relations ↔
      p ∈ g.relations.filter (·.id ≠ r.id) ++ [q] := by
    rw [List.mem_append, List.mem_singleton, List.mem_filter, decide_eq_true_eq]
    constructor
    · intro hp
      obtain ⟨p', hp', rfl⟩ := List.mem_map.1 hp
      split
      · exact Or.inr rfl
      · next hne => exact Or.inl ⟨hp', hne⟩
    · rintro (⟨hp, hne⟩ | rfl)
      · exact List.mem_map.2 ⟨p, hp, if_neg hne⟩
      · exact List.mem_map.2 ⟨r, hr, if_pos rfl⟩
  obtain ⟨y, hy, hrep⟩ := (rep.dropRelation carries).attach (r := q) hs ht hnew
  obtain ⟨s, hsource⟩ := exists_entry_iff.1 (rep.mem_index_iff.2 hs)
  obtain ⟨t, htarget⟩ := exists_entry_iff.1 (rep.mem_index_iff.2 ht)
  simp only [IndexedGraph.attach, IndexedGraph.dropRelation, hsource, htarget] at hy
  cases hy
  have hedges (n : UInt64) :
      (x.edges.insert q.id.number (addEdge (removeEdge x.arena e) s t q).1)[n]? =
        ((x.edges.erase r.id.number).insert q.id.number
          (addEdge (removeEdge x.arena e) s t q).1)[n]? := by
    rw [getElem?_insert_eq, getElem?_insert_eq, getElem?_erase_eq, hid]
    split <;> rfl
  refine ⟨_, ?_, (hrep.of_edges hedges).of_relations hrelations⟩
  simp only [IndexedGraph.reattach, IndexedGraph.attach, hsource, htarget]

end Represents

end Argumentation.IndexedGraph
