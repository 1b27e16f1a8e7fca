import Argumentation.Proofs.Indexed.Graph
import Mathlib.Data.List.Forall2
import Mathlib.Data.List.Sort

/-!
# Indexed graphs represent graphs

An indexed graph represents a graph if the slots in their order hold its arguments, if the taken
slots of the arena and the entries of the two indices are just those that its arguments and its
relations need, and if each relation joins the slots of its ends.

What can be seen of an indexed graph is then what is seen of the graph: `argument?_eq`,
`arguments_eq`, `relation?_eq`, `relations_eq`, `findRelation?_eq` and `incident_eq`.  Relations
are found among the edges of an argument, and no two relations of a graph say the same, so it
does not matter which edge comes first.
-/

namespace Argumentation

open Arena

theorem RelationId.eq_of_number {a b : RelationId} (h : a.number = b.number) : a = b := by
  cases a
  cases b
  exact congrArg RelationId.mk h

/-! ## Indices and lists -/

section Index

variable {κ : Type} [Ord κ] [Std.TransOrd κ]

theorem exists_entry_iff {m : Std.TreeMap κ Nat} {a : κ} : a ∈ m ↔ ∃ v, m[a]? = some v := by
  rw [Std.TreeMap.mem_iff_isSome_getElem?, Option.isSome_iff_exists]

variable [DecidableEq κ] [Std.LawfulEqOrd κ]

theorem getElem?_insert_eq (m : Std.TreeMap κ Nat) (k : κ) (v : Nat) (a : κ) :
    (m.insert k v)[a]? = if a = k then some v else m[a]? := by
  rw [Std.TreeMap.getElem?_insert]
  simp only [Std.compare_eq_iff_eq, @eq_comm κ k a]

theorem getElem?_erase_eq (m : Std.TreeMap κ Nat) (k a : κ) :
    (m.erase k)[a]? = if a = k then none else m[a]? := by
  rw [Std.TreeMap.getElem?_erase]
  simp only [Std.compare_eq_iff_eq, @eq_comm κ k a]

end Index

theorem exists_of_mem_right {α β : Type} {R : α → β → Prop} {l : List α} {m : List β}
    (h : List.Forall₂ R l m) {b : β} (hb : b ∈ m) : ∃ a ∈ l, R a b := by
  induction h with
  | nil => cases hb
  | cons hr _ ih =>
    cases hb with
    | head => exact ⟨_, List.mem_cons_self, hr⟩
    | tail _ hb =>
      obtain ⟨a, ha, har⟩ := ih hb
      exact ⟨a, List.mem_cons_of_mem _ ha, har⟩

theorem exists_of_mem_left {α β : Type} {R : α → β → Prop} {l : List α} {m : List β}
    (h : List.Forall₂ R l m) {a : α} (ha : a ∈ l) : ∃ b ∈ m, R a b :=
  exists_of_mem_right (R := flip R) h.flip ha

/-- Increasing lists with the same members are equal. -/
theorem eq_of_increasing {α : Type} {f : α → UInt64} {l m : List α}
    (hl : l.Pairwise fun a b => f a < f b) (hm : m.Pairwise fun a b => f a < f b)
    (h : ∀ a, a ∈ l ↔ a ∈ m) : l = m := by
  have hnodup {k : List α} (hk : k.Pairwise fun a b => f a < f b) : k.Nodup := by
    refine hk.imp fun hlt heq => ?_
    rw [heq] at hlt
    exact UInt64.lt_irrefl _ hlt
  have hperm : l.Perm m := (List.perm_ext_iff_of_nodup (hnodup hl) (hnodup hm)).2 h
  exact hperm.eq_of_pairwise (fun a b _ _ hab hba => absurd hab (UInt64.lt_asymm hba)) hl hm

namespace IndexedGraph

variable {G : Type} [Arena Argument Relation G]

/-! ## Representing -/

/-- Whether a node of a graph is in a slot. -/
structure Holds (x : IndexedGraph G) (i : Nat) (n : Node) : Prop where
  /-- The slot holds the argument. -/
  node : node? x.arena i = some n.argument
  /-- The index leads to the slot. -/
  entry : x.index[n.key]? = some i
  /-- The argument is found by its own identifier. -/
  keyed : n.argument.id = n.key

/-- Whether a relation is in a slot and joins the slots of its ends. -/
structure Carries (x : IndexedGraph G) (e : Nat) (r : Relation) : Prop where
  /-- The slot joins the slots of the ends. -/
  edge : ∃ s t, edge? x.arena e = some ⟨s, t, r⟩ ∧
    x.index[r.source]? = some s ∧ x.index[r.target]? = some t
  /-- The index leads to the slot. -/
  entry : x.edges[r.id.number]? = some e

/-- Whether an indexed graph represents a graph. -/
structure Represents (x : IndexedGraph G) (g : Graph) : Prop where
  /-- The slots in their order hold the arguments in theirs. -/
  order : List.Forall₂ x.Holds x.order g.nodes
  /-- No other slots hold arguments. -/
  taken : ∀ i a, node? x.arena i = some a → i ∈ x.order
  /-- No other identifiers have an entry. -/
  indexed : ∀ id ∈ x.index, id ∈ g.keys
  /-- Every relation is in a slot. -/
  carried : ∀ r ∈ g.relations, ∃ e, x.Carries e r
  /-- No other edges are there. -/
  joined : ∀ e d, edge? x.arena e = some d → d.weight ∈ g.relations ∧ x.Carries e d.weight
  /-- No other numbers have an entry. -/
  numbered : ∀ n ∈ x.edges, ∃ r ∈ g.relations, r.id.number = n
  /-- The counters agree. -/
  counter : x.counter = g.counter

theorem represents_empty [LawfulArena G] : (({} : IndexedGraph G)).Represents {} where
  order := .nil
  taken i a h := by
    rw [LawfulArena.node?_empty] at h
    cases h
  indexed id h := absurd h Std.TreeMap.not_mem_emptyc
  carried r h := absurd h List.not_mem_nil
  joined e d h := by
    rw [LawfulArena.edge?_empty] at h
    cases h
  numbered n h := absurd h Std.TreeMap.not_mem_emptyc
  counter := rfl

namespace Represents

variable {x : IndexedGraph G} {g : Graph} (rep : x.Represents g)
include rep

/-! ## Arguments -/

theorem exists_slot {n : Node} (h : n ∈ g.nodes) : ∃ i ∈ x.order, x.Holds i n :=
  exists_of_mem_right rep.order h

theorem exists_node {i : Nat} (h : i ∈ x.order) : ∃ n ∈ g.nodes, x.Holds i n :=
  exists_of_mem_left rep.order h

theorem mem_index_iff {id : String} : id ∈ x.index ↔ id ∈ g.keys := by
  constructor
  · exact rep.indexed id
  · intro h
    obtain ⟨n, hn, rfl⟩ := List.mem_map.1 h
    obtain ⟨i, -, holds⟩ := rep.exists_slot hn
    exact exists_entry_iff.2 ⟨i, holds.entry⟩

theorem exists_of_entry {id : String} {i : Nat} (h : x.index[id]? = some i) :
    ∃ n ∈ g.nodes, n.key = id ∧ x.Holds i n := by
  obtain ⟨n, hn, rfl⟩ := List.mem_map.1 (rep.indexed id (exists_entry_iff.2 ⟨i, h⟩))
  obtain ⟨j, -, holds⟩ := rep.exists_slot hn
  have hij : j = i := by
    rw [holds.entry] at h
    exact Option.some.inj h
  exact ⟨n, hn, rfl, hij ▸ holds⟩

theorem entry_eq_none_iff {id : String} : x.index[id]? = none ↔ id ∉ g.keys := by
  rw [← rep.mem_index_iff, exists_entry_iff, Option.eq_none_iff_forall_ne_some]
  exact not_exists.symm

theorem arguments_eq : x.arguments = g.arguments := by
  have hlists {l : List Nat} {m : List Node} (h : List.Forall₂ x.Holds l m) :
      l.filterMap (node? x.arena) = m.map (·.argument) := by
    induction h with
    | nil => rfl
    | cons holds _ ih => rw [List.filterMap_cons_some holds.node, ih, List.map_cons]
  exact hlists rep.order

/-! ## Relations -/

theorem entry_of_none {id : RelationId} (h : g.relation? id = none) :
    x.edges[id.number]? = none := by
  refine Std.TreeMap.getElem?_eq_none fun hmem => ?_
  obtain ⟨r, hr, hnumber⟩ := rep.numbered _ hmem
  exact Graph.relation?_eq_none_iff.1 h r hr (RelationId.eq_of_number hnumber)

theorem found?_of_none {id : RelationId} (h : g.relation? id = none) : x.found? id = none := by
  rw [found?, rep.entry_of_none h]
  rfl

theorem found?_of_mem {r : Relation} (h : r ∈ g.relations) :
    ∃ e s t, x.found? r.id = some (e, ⟨s, t, r⟩) ∧ x.Carries e r := by
  obtain ⟨e, carries⟩ := rep.carried r h
  obtain ⟨s, t, hedge, -, -⟩ := carries.edge
  refine ⟨e, s, t, ?_, carries⟩
  rw [found?, carries.entry, Option.bind_some, hedge]
  rfl

theorem found?_of_some {id : RelationId} {r : Relation} (h : g.relation? id = some r) :
    ∃ e s t, x.found? id = some (e, ⟨s, t, r⟩) ∧ x.Carries e r := by
  obtain ⟨hmem, rfl⟩ := Graph.mem_of_relation? h
  exact rep.found?_of_mem hmem

theorem relation?_eq (id : RelationId) : x.relation? id = g.relation? id := by
  rw [relation?]
  cases h : g.relation? id with
  | none => rw [rep.found?_of_none h, Option.map_none]
  | some r =>
    obtain ⟨e, s, t, hfound, -⟩ := rep.found?_of_some h
    rw [hfound]
    rfl

theorem exists_of_number {n : UInt64} {e : Nat} (h : x.edges[n]? = some e) :
    ∃ r ∈ g.relations, r.id.number = n ∧ x.Carries e r := by
  obtain ⟨r, hr, rfl⟩ := rep.numbered n (exists_entry_iff.2 ⟨e, h⟩)
  obtain ⟨e', carries⟩ := rep.carried r hr
  have hee : e' = e := by
    rw [carries.entry] at h
    exact Option.some.inj h
  exact ⟨r, hr, rfl, hee ▸ carries⟩

theorem mem_relations_iff {r : Relation} : r ∈ x.relations ↔ r ∈ g.relations := by
  unfold relations
  rw [List.mem_filterMap]
  constructor
  · rintro ⟨p, -, hp⟩
    obtain ⟨d, hd, rfl⟩ := Option.map_eq_some_iff.1 hp
    exact (rep.joined p.2 d hd).1
  · intro hr
    obtain ⟨e, carries⟩ := rep.carried r hr
    obtain ⟨s, t, hedge, -, -⟩ := carries.edge
    refine ⟨(r.id.number, e), Std.TreeMap.mem_toList_iff_getElem?_eq_some.2 carries.entry, ?_⟩
    rw [hedge]
    rfl

theorem increasing_relations : x.relations.Pairwise fun q r => q.id.number < r.id.number := by
  refine List.pairwise_filterMap.2 (Std.TreeMap.ordered_keys_toList.imp_of_mem ?_)
  intro p p' hp hp' hlt q hq r hr
  have hnumber {p : UInt64 × Nat} {r : Relation} (hp : p ∈ x.edges.toList)
      (hr : (edge? x.arena p.2).map (·.weight) = some r) : r.id.number = p.1 := by
    obtain ⟨r', -, hn, carries⟩ :=
      rep.exists_of_number (Std.TreeMap.mem_toList_iff_getElem?_eq_some.1 hp)
    obtain ⟨s, t, hedge, -, -⟩ := carries.edge
    rw [hedge] at hr
    cases hr
    exact hn
  rw [hnumber hp hq, hnumber hp' hr]
  exact Std.compare_eq_lt.1 hlt

theorem relations_eq (sound : g.Sound) : x.relations = g.relations :=
  eq_of_increasing rep.increasing_relations sound.increasing fun _ => rep.mem_relations_iff

/-- The ends of an edge are the slots that the index gives. -/
theorem ends_of_edge {e : Nat} {d : ArenaEdge Relation} (h : edge? x.arena e = some d) :
    x.index[d.weight.source]? = some d.source ∧ x.index[d.weight.target]? = some d.target := by
  obtain ⟨s, t, hedge, hs, ht⟩ := (rep.joined e d h).2.edge
  have heq : d = ⟨s, t, d.weight⟩ := Option.some.inj (h.symm.trans hedge)
  rw [heq]
  exact ⟨hs, ht⟩

theorem ends_mem {r : Relation} (h : r ∈ g.relations) : r.source ∈ g.keys ∧ r.target ∈ g.keys := by
  obtain ⟨e, carries⟩ := rep.carried r h
  obtain ⟨s, t, -, hs, ht⟩ := carries.edge
  rw [← rep.mem_index_iff, ← rep.mem_index_iff]
  exact ⟨exists_entry_iff.2 ⟨s, hs⟩, exists_entry_iff.2 ⟨t, ht⟩⟩

/-- Two identifiers with the same slot are the same. -/
theorem key_inj {i : Nat} {k l : String} (hk : x.index[k]? = some i)
    (hl : x.index[l]? = some i) : k = l := by
  obtain ⟨m, -, rfl, mholds⟩ := rep.exists_of_entry hk
  obtain ⟨n, -, rfl, nholds⟩ := rep.exists_of_entry hl
  have hargument : m.argument = n.argument :=
    Option.some.inj (mholds.node.symm.trans nholds.node)
  rw [← mholds.keyed, ← nholds.keyed, hargument]

/-- An edge of the slot of an argument carries a relation of that argument. -/
theorem touches_iff {id : String} {i : Nat} (hi : x.index[id]? = some i)
    {e : Nat} {d : ArenaEdge Relation} (h : edge? x.arena e = some d) :
    Graph.touches id d.weight = true ↔ d.source = i ∨ d.target = i := by
  obtain ⟨hs, ht⟩ := rep.ends_of_edge h
  have hend {k : String} {j : Nat} (hk : x.index[k]? = some j) : k = id ↔ j = i := by
    constructor
    · rintro rfl
      exact Option.some.inj (hk.symm.trans hi)
    · rintro rfl
      exact rep.key_inj hk hi
  simp [Graph.touches, hend hs, hend ht]

/-- Nothing is said about what has no slot. -/
theorem findRelation?_of_entry_none (sound : g.Sound) {key : RelationKey}
    (h : x.index[key.source]? = none ∨ x.index[key.target]? = none) :
    g.findRelation? key = none := by
  rw [Graph.findRelation?_eq_none_iff]
  intro hmem
  obtain ⟨r, hr, rfl⟩ := List.mem_map.1 hmem
  obtain ⟨hs, ht⟩ := sound.joined r hr
  rcases h with hnone | hnone
  · exact rep.entry_eq_none_iff.1 hnone hs
  · exact rep.entry_eq_none_iff.1 hnone ht

/-- What an edge says is determined by its slots and its kind. -/
theorem key_of_edge {e : Nat} {d : ArenaEdge Relation} (h : edge? x.arena e = some d)
    {key : RelationKey} (hs : x.index[key.source]? = some d.source)
    (ht : x.index[key.target]? = some d.target) (hkind : d.weight.kind = key.kind) :
    d.weight.key = key := by
  obtain ⟨hsource, htarget⟩ := rep.ends_of_edge h
  have hks : d.weight.source = key.source := rep.key_inj hsource hs
  have hkt : d.weight.target = key.target := rep.key_inj htarget ht
  cases key
  cases hks
  cases hkt
  cases hkind
  rfl

variable [LawfulArena G]

/-- A relation that is found among the edges of its source is one of the graph, and any relation
of the graph is found there. -/
theorem findRelation?_eq (sound : g.Sound) (key : RelationKey) :
    x.findRelation? key = g.findRelation? key := by
  unfold findRelation?
  cases hs : x.index[key.source]? with
  | none => rw [rep.findRelation?_of_entry_none sound (Or.inl hs)]
  | some s =>
    cases ht : x.index[key.target]? with
    | none => rw [rep.findRelation?_of_entry_none sound (Or.inr ht)]
    | some t =>
      simp only
      cases hfind : ((outgoing x.arena s).filterMap (edge? x.arena)).find? fun d =>
          d.target = t ∧ d.weight.kind = key.kind with
      | some d =>
        obtain ⟨e, he, hedge⟩ := List.mem_filterMap.1 (List.mem_of_find?_eq_some hfind)
        have hd : d.target = t ∧ d.weight.kind = key.kind := by
          simpa using List.find?_some hfind
        obtain ⟨d', hd', rfl⟩ := (LawfulArena.mem_outgoing _ _ _).1 he
        cases Option.some.inj (hedge.symm.trans hd')
        obtain ⟨hmem, -⟩ := rep.joined e d hedge
        have hkey : d.weight.key = key := rep.key_of_edge hedge hs (hd.1 ▸ ht) hd.2
        rw [sound.findRelation?_eq_some_iff.2 ⟨d.weight, hmem, hkey, rfl⟩]
        rfl
      | none =>
        cases hg : g.findRelation? key with
        | none => rfl
        | some id =>
          obtain ⟨r, hr, rfl, -⟩ := sound.findRelation?_eq_some_iff.1 hg
          obtain ⟨e, carries⟩ := rep.carried r hr
          obtain ⟨s', t', hedge, hs', ht'⟩ := carries.edge
          have hss : s' = s := Option.some.inj (hs'.symm.trans hs)
          have htt : t' = t := Option.some.inj (ht'.symm.trans ht)
          have hmem : (⟨s', t', r⟩ : ArenaEdge Relation) ∈
              (outgoing x.arena s).filterMap (edge? x.arena) :=
            List.mem_filterMap.2 ⟨e, (LawfulArena.mem_outgoing _ _ _).2 ⟨_, hedge, hss⟩, hedge⟩
          have hno := List.find?_eq_none.1 hfind _ hmem
          simp [htt, Relation.key] at hno

/-- The edges of the slot of an argument carry the relations of that argument. -/
theorem mem_numbers_iff {k : String} {i : Nat} (hi : x.index[k]? = some i) {n : UInt64} :
    n ∈ (outgoing x.arena i ++ incoming x.arena i).filterMap
        (fun e => (edge? x.arena e).map (·.weight.id.number)) ↔
      n ∈ (g.relations.filter (Graph.touches k)).map (·.id.number) := by
  rw [List.mem_filterMap, List.mem_map]
  constructor
  · rintro ⟨e, he, hn⟩
    obtain ⟨d, hd, rfl⟩ := Option.map_eq_some_iff.1 hn
    refine ⟨d.weight, List.mem_filter.2 ⟨(rep.joined e d hd).1, ?_⟩, rfl⟩
    refine (rep.touches_iff hi hd).2 ?_
    rcases List.mem_append.1 he with he | he
    · obtain ⟨d', hd', hsource⟩ := (LawfulArena.mem_outgoing _ _ _).1 he
      cases Option.some.inj (hd.symm.trans hd')
      exact Or.inl hsource
    · obtain ⟨d', hd', htarget⟩ := (LawfulArena.mem_incoming _ _ _).1 he
      cases Option.some.inj (hd.symm.trans hd')
      exact Or.inr htarget
  · rintro ⟨r, hr, rfl⟩
    obtain ⟨hr, htouches⟩ := List.mem_filter.1 hr
    obtain ⟨e, carries⟩ := rep.carried r hr
    obtain ⟨s, t, hedge, -, -⟩ := carries.edge
    refine ⟨e, List.mem_append.2 ?_, by rw [hedge]; rfl⟩
    have hend := (rep.touches_iff hi hedge).1 htouches
    rw [LawfulArena.mem_outgoing, LawfulArena.mem_incoming]
    exact hend.imp (fun h => ⟨_, hedge, h⟩) fun h => ⟨_, hedge, h⟩

/-- The numbers of the relations of an argument are those of its edges, in order and each once. -/
theorem incident_eq (sound : g.Sound) (id : String) : x.incident id = g.incident id := by
  unfold incident Graph.incident
  generalize canonicalId id = k
  cases hi : x.index[k]? with
  | none =>
    have hnone : g.relations.filter (Graph.touches k) = [] := by
      rw [List.filter_eq_nil_iff]
      intro r hr htouches
      obtain ⟨hs, ht⟩ := sound.joined r hr
      refine rep.entry_eq_none_iff.1 hi ?_
      rw [Graph.touches, Bool.or_eq_true, decide_eq_true_eq, decide_eq_true_eq] at htouches
      rcases htouches with heq | heq
      · rwa [heq] at hs
      · rwa [heq] at ht
    rw [hnone]
    rfl
  | some i =>
    simp only
    have hnumbers : (Std.TreeSet.ofList ((outgoing x.arena i ++ incoming x.arena i).filterMap
          fun e => (edge? x.arena e).map (·.weight.id.number))).toList =
        (g.relations.filter (Graph.touches k)).map (·.id.number) := by
      refine eq_of_increasing (f := fun n => n) ?_ ?_ fun n => ?_
      · exact Std.TreeSet.ordered_toList.imp Std.compare_eq_lt.1
      · exact List.pairwise_map.2 (sound.increasing.sublist List.filter_sublist)
      · rw [Std.TreeSet.mem_toList, Std.TreeSet.mem_ofList, List.contains_iff_mem]
        exact rep.mem_numbers_iff hi
    rw [hnumbers, List.map_map]
    rfl

end Represents

end IndexedGraph

end Argumentation
