import Argumentation.Proofs.Indexed.Run

/-!
# Indices stay in step

An indexed graph holds an argument in three places and a relation in two.  `WellIndexed` says how
these hang together: slots that are taken are listed once and found by what is in them, an edge
joins the arguments that its relation names, and no two relations say the same.

An indexed graph that represents a sound graph is well indexed, and no violation is found in it.
So this holds after every run from the empty graph (`run_wellIndexed`).
-/

namespace Argumentation

open Arena

/-! ## Entries of an index -/

section Entries

variable {κ : Type} [Ord κ] [Std.TransOrd κ] [Std.LawfulEqOrd κ] {m : Std.TreeMap κ Nat}

theorem mem_slots_iff {v : Nat} : v ∈ m.toList.map (·.2) ↔ ∃ k : κ, m[k]? = some v := by
  rw [List.mem_map]
  constructor
  · rintro ⟨⟨k, v⟩, h, rfl⟩
    exact ⟨k, Std.TreeMap.mem_toList_iff_getElem?_eq_some.1 h⟩
  · rintro ⟨k, h⟩
    exact ⟨(k, v), Std.TreeMap.mem_toList_iff_getElem?_eq_some.2 h, rfl⟩

/-- An index in which no two keys lead to the same slot lists each slot once. -/
theorem nodup_slots (hinj : ∀ (k l : κ) v, m[k]? = some v → m[l]? = some v → k = l) :
    (m.toList.map (·.2)).Nodup := by
  rw [List.Nodup, List.pairwise_map]
  refine Std.TreeMap.distinct_keys_toList.imp_of_mem ?_
  rintro ⟨k, v⟩ ⟨l, w⟩ hk hl hne (rfl : v = w)
  rw [Std.TreeMap.mem_toList_iff_getElem?_eq_some] at hk hl
  exact hne (Std.compare_eq_iff_eq.2 (hinj k l v hk hl))

end Entries

/-! ## Violations of graphs -/

namespace Graph

theorem nodeViolations_eq_nil {n : Node} (hkey : n.argument.id = n.key)
    (hcanonical : canonicalId n.argument.id = n.argument.id) : nodeViolations n = [] := by
  unfold nodeViolations
  rw [if_neg (not_not_intro hkey), if_neg (not_not_intro hcanonical)]

theorem mem_incident {g : Graph} {id : String} {n : RelationId} :
    n ∈ g.incident id ↔
      ∃ r, (r ∈ g.relations ∧ r.id = n) ∧
        (r.source = canonicalId id ∨ r.target = canonicalId id) := by
  simp only [incident, List.mem_map, List.mem_filter, touches, Bool.or_eq_true, decide_eq_true_eq]
  exact exists_congr fun r => by rw [and_assoc, and_assoc, @and_comm (r.id = n)]

namespace Sound

variable {g : Graph} (sound : g.Sound)
include sound

theorem canonical_id {n : Node} (h : n ∈ g.nodes) : IsCanonical n.argument.id := by
  rw [sound.keyed n h]
  exact sound.canonical n.key (List.mem_map_of_mem h)

theorem relationViolations_eq_nil {r : Relation} (h : r ∈ g.relations) {earlier : List RelationKey}
    (hnew : r.key ∉ earlier) : g.relationViolations earlier r = [] := by
  obtain ⟨hs, ht⟩ := sound.joined r h
  simp [relationViolations, endViolations, hasKey_iff.2 hs, hasKey_iff.2 ht, hnew,
    sound.below r h]

theorem relationsViolations_eq_nil {earlier : List RelationKey} {rs : List Relation}
    (hmem : ∀ r ∈ rs, r ∈ g.relations) (hnew : ∀ r ∈ rs, r.key ∉ earlier)
    (hnodup : (rs.map (·.key)).Nodup) : g.relationsViolations earlier rs = [] := by
  induction rs generalizing earlier with
  | nil => rfl
  | cons r rs ih =>
    rw [List.forall_mem_cons] at hmem hnew
    rw [List.map_cons, List.nodup_cons] at hnodup
    rw [relationsViolations, sound.relationViolations_eq_nil hmem.1 hnew.1, List.nil_append]
    refine ih hmem.2 (fun q hq => ?_) hnodup.2
    rw [List.mem_cons, not_or]
    exact ⟨fun heq => hnodup.1 (heq ▸ List.mem_map_of_mem hq), hnew.2 q hq⟩

theorem increasing_incident (id : String) :
    (g.incident id).Pairwise (·.number < ·.number) :=
  List.pairwise_map.2 (sound.increasing.sublist List.filter_sublist)

/-- Nothing is wrong with a sound graph. -/
theorem violations_eq_nil : g.violations = [] := by
  rw [violations, sound.relationsViolations_eq_nil (fun _ => id) (fun _ _ => List.not_mem_nil)
    sound.nodup_relationKeys, List.append_nil, List.flatMap_eq_nil_iff]
  intro n hn
  have hmem : n ∈ g.nodes := List.mem_mergeSort.1 hn
  exact nodeViolations_eq_nil (sound.keyed n hmem) (sound.canonical_id hmem)

end Sound

end Graph

namespace IndexedGraph

variable {G : Type} [Arena Argument Relation G]

/-! ## Indices in step -/

/-- Whether the arena, the two indices, the order and the counter agree with each other. -/
structure WellIndexed (x : IndexedGraph G) : Prop where
  /-- The order lists the slots that hold arguments. -/
  mem_order : ∀ i, i ∈ x.order ↔ (node? x.arena i).isSome
  /-- It lists each once. -/
  nodup_order : x.order.Nodup
  /-- An identifier leads to the slot of the argument that goes by it. -/
  index_iff : ∀ id i, x.index[id]? = some i ↔ ∃ a, node? x.arena i = some a ∧ a.id = id
  /-- Identifiers are canonical. -/
  canonical : ∀ i a, node? x.arena i = some a → IsCanonical a.id
  /-- A number leads to the edge that carries the relation of that number. -/
  edges_iff : ∀ n e,
    x.edges[n]? = some e ↔ ∃ d, edge? x.arena e = some d ∧ d.weight.id.number = n
  /-- An edge joins the arguments that its relation names. -/
  ends : ∀ e d, edge? x.arena e = some d →
    (∃ a, node? x.arena d.source = some a ∧ a.id = d.weight.source) ∧
      ∃ b, node? x.arena d.target = some b ∧ b.id = d.weight.target
  /-- No two relations say the same. -/
  key_inj : ∀ e d e' d', edge? x.arena e = some d → edge? x.arena e' = some d' →
    d.weight.key = d'.weight.key → e = e'
  /-- The counter is beyond every number. -/
  below : ∀ e d, edge? x.arena e = some d → d.weight.id.number < x.counter.next

namespace Represents

variable {x : IndexedGraph G} {g : Graph} (rep : x.Represents g)
include rep

theorem index_iff {id : String} {i : Nat} :
    x.index[id]? = some i ↔ ∃ a, node? x.arena i = some a ∧ a.id = id := by
  constructor
  · intro h
    obtain ⟨n, -, rfl, holds⟩ := rep.exists_of_entry h
    exact ⟨n.argument, holds.node, holds.keyed⟩
  · rintro ⟨a, ha, rfl⟩
    obtain ⟨n, -, holds⟩ := rep.exists_node (rep.taken i a ha)
    cases Option.some.inj (ha.symm.trans holds.node)
    rw [holds.keyed]
    exact holds.entry

theorem edges_iff {n : UInt64} {e : Nat} :
    x.edges[n]? = some e ↔ ∃ d, edge? x.arena e = some d ∧ d.weight.id.number = n := by
  constructor
  · intro h
    obtain ⟨r, -, rfl, carries⟩ := rep.exists_of_number h
    obtain ⟨s, t, hedge, -, -⟩ := carries.edge
    exact ⟨⟨s, t, r⟩, hedge, rfl⟩
  · rintro ⟨d, hd, rfl⟩
    exact (rep.joined e d hd).2.entry

theorem nodup_order (sound : g.Sound) : x.order.Nodup := by
  have hkeys {l : List Nat} {m : List Node} (h : List.Forall₂ x.Holds l m)
      (hnodup : (m.map (·.key)).Nodup) : l.Nodup := by
    induction h with
    | nil => exact List.nodup_nil
    | @cons i n l m holds hrest ih =>
      rw [List.map_cons, List.nodup_cons] at hnodup
      refine List.nodup_cons.2 ⟨fun hi => hnodup.1 ?_, ih hnodup.2⟩
      obtain ⟨n', hn', holds'⟩ := exists_of_mem_left hrest hi
      have hkey : n'.key = n.key := rep.key_inj holds'.entry holds.entry
      exact hkey ▸ List.mem_map_of_mem hn'
  exact hkeys rep.order sound.nodup_keys

/-- The indices of what represents a sound graph are in step. -/
theorem wellIndexed (sound : g.Sound) : x.WellIndexed where
  mem_order i := by
    rw [Option.isSome_iff_exists]
    constructor
    · intro hi
      obtain ⟨n, -, holds⟩ := rep.exists_node hi
      exact ⟨n.argument, holds.node⟩
    · rintro ⟨a, ha⟩
      exact rep.taken i a ha
  nodup_order := rep.nodup_order sound
  index_iff _ _ := rep.index_iff
  canonical i a h := by
    obtain ⟨n, hn, holds⟩ := rep.exists_node (rep.taken i a h)
    cases Option.some.inj (h.symm.trans holds.node)
    exact sound.canonical_id hn
  edges_iff _ _ := rep.edges_iff
  ends e d h := by
    obtain ⟨hs, ht⟩ := rep.ends_of_edge h
    exact ⟨rep.index_iff.1 hs, rep.index_iff.1 ht⟩
  key_inj e d e' d' h h' hkey := by
    obtain ⟨hmem, carries⟩ := rep.joined e d h
    obtain ⟨hmem', carries'⟩ := rep.joined e' d' h'
    exact carries.slot_inj carries' (congrArg Relation.id (sound.eq_of_key_eq hmem hmem' hkey))
  below e d h := by
    rw [rep.counter]
    exact sound.below d.weight (rep.joined e d h).1

/-! ## Violations of indexed graphs -/

/-- There is an entry for every slot in the order. -/
theorem length_order (sound : g.Sound) : x.order.length = x.index.size := by
  have hnodup : (x.index.toList.map (·.2)).Nodup := nodup_slots fun _ _ _ => rep.key_inj
  have hperm : x.order.Perm (x.index.toList.map (·.2)) := by
    rw [List.perm_ext_iff_of_nodup (rep.nodup_order sound) hnodup]
    intro i
    rw [mem_slots_iff]
    constructor
    · intro hi
      obtain ⟨n, -, holds⟩ := rep.exists_node hi
      exact ⟨n.key, holds.entry⟩
    · rintro ⟨id, h⟩
      obtain ⟨a, ha, -⟩ := rep.index_iff.1 h
      exact rep.taken i a ha
  rw [hperm.length_eq, List.length_map, Std.TreeMap.length_toList]

/-- There is an entry for every edge. -/
theorem edgeCount_eq [LawfulArena G] : edgeCount x.arena = x.edges.size := by
  have hinj (k l : UInt64) (v : Nat) (hk : x.edges[k]? = some v) (hl : x.edges[l]? = some v) :
      k = l := by
    obtain ⟨d, hd, rfl⟩ := rep.edges_iff.1 hk
    obtain ⟨d', hd', rfl⟩ := rep.edges_iff.1 hl
    rw [Option.some.inj (hd.symm.trans hd')]
  have hmem (e : Nat) : e ∈ x.edges.toList.map (·.2) ↔ (edge? x.arena e).isSome := by
    rw [mem_slots_iff, Option.isSome_iff_exists]
    constructor
    · rintro ⟨n, h⟩
      obtain ⟨d, hd, -⟩ := rep.edges_iff.1 h
      exact ⟨d, hd⟩
    · rintro ⟨d, hd⟩
      exact ⟨d.weight.id.number, rep.edges_iff.2 ⟨d, hd, rfl⟩⟩
  rw [LawfulArena.edgeCount_eq x.arena _ (nodup_slots hinj) hmem, List.length_map,
    Std.TreeMap.length_toList]

theorem entryViolations_eq_nil (sound : g.Sound) {entry : String × Nat}
    (h : entry ∈ x.index.toList) : x.entryViolations entry = [] := by
  obtain ⟨id, i⟩ := entry
  obtain ⟨n, hn, rfl, holds⟩ :=
    rep.exists_of_entry (Std.TreeMap.mem_toList_iff_getElem?_eq_some.1 h)
  simp only [entryViolations, holds.node]
  exact Graph.nodeViolations_eq_nil holds.keyed (sound.canonical_id hn)

/-- The same is wrong with the relations. -/
theorem relationsViolations_eq (earlier : List RelationKey) (rs : List Relation) :
    x.relationsViolations earlier rs = g.relationsViolations earlier rs := by
  have hend (r : Relation) (id : String) : x.endViolations r id = g.endViolations r id := by
    rw [endViolations, Graph.endViolations]
    simp only [rep.mem_index_iff, Graph.hasKey_iff]
  induction rs generalizing earlier with
  | nil => rfl
  | cons r rs ih =>
    rw [relationsViolations, Graph.relationsViolations, ih, relationViolations,
      Graph.relationViolations, hend, hend, rep.counter]

/-- Nothing is wrong with what represents a sound graph. -/
theorem violations_eq_nil [LawfulArena G] (sound : g.Sound) : x.violations = [] := by
  have hentries : x.index.toList.flatMap x.entryViolations = [] :=
    List.flatMap_eq_nil_iff.2 fun _ h => rep.entryViolations_eq_nil sound h
  have hrelations : x.relationsViolations [] x.relations = [] := by
    rw [rep.relationsViolations_eq, rep.relations_eq sound]
    exact sound.relationsViolations_eq_nil (fun _ => id) (fun _ _ => List.not_mem_nil)
      sound.nodup_relationKeys
  rw [violations, hentries, hrelations, if_pos (rep.length_order sound), if_pos rep.edgeCount_eq]
  rfl

/-! ## Representing a sound graph -/

theorem exists_addArguments [LawfulArena G] {ns : List Node}
    (hkeyed : ∀ n ∈ ns, n.argument.id = n.key) (hnodup : (g.keys ++ ns.map (·.key)).Nodup) :
    ∃ y : IndexedGraph G, y.Represents { g with nodes := g.nodes ++ ns } := by
  induction ns generalizing x g with
  | nil => exact ⟨x, by rwa [List.append_nil]⟩
  | cons n ns ih =>
    rw [List.forall_mem_cons] at hkeyed
    rw [List.map_cons, List.append_cons] at hnodup
    have hnew : n.argument.id ∉ g.keys := by
      have hdisjoint := List.nodup_append.1 (List.nodup_append.1 hnodup).1
      rw [hkeyed.1]
      exact fun hmem => hdisjoint.2.2 _ hmem _ (List.mem_singleton_self n.key) rfl
    have hadded := rep.addArgument hnew
    rw [hkeyed.1] at hadded
    obtain ⟨y, hy⟩ := ih hadded hkeyed.2 (by simpa [Graph.keys] using hnodup)
    exact ⟨y, by rwa [List.append_cons]⟩

theorem exists_attach [LawfulArena G] {rs : List Relation}
    (hjoined : ∀ r ∈ rs, r.source ∈ g.keys ∧ r.target ∈ g.keys)
    (hnodup : ((g.relations ++ rs).map (·.id.number)).Nodup) :
    ∃ y : IndexedGraph G, y.Represents { g with relations := g.relations ++ rs } := by
  induction rs generalizing x g with
  | nil => exact ⟨x, by rwa [List.append_nil]⟩
  | cons r rs ih =>
    rw [List.forall_mem_cons] at hjoined
    rw [List.append_cons] at hnodup ⊢
    have hnew : r.id.number ∉ x.edges := by
      intro hmem
      obtain ⟨q, hq, hnumber⟩ := rep.numbered _ hmem
      rw [List.map_append, List.map_append] at hnodup
      have hdisjoint := List.nodup_append.1 (List.nodup_append.1 hnodup).1
      exact hdisjoint.2.2 _ (List.mem_map_of_mem hq) _ (List.mem_singleton_self _) hnumber
    obtain ⟨y, -, hadded⟩ := rep.attach hjoined.1.1 hjoined.1.2 hnew
    exact ih hadded hjoined.2 hnodup

omit rep in
/-- Every sound graph is represented. -/
theorem exists_represents [LawfulArena G] (sound : g.Sound) :
    ∃ x : IndexedGraph G, x.Represents g := by
  have hempty := (represents_empty (G := G)).with_counter g.counter
  obtain ⟨y, hy⟩ := hempty.exists_addArguments sound.keyed sound.nodup_keys
  have hnumbers : (g.relations.map (·.id.number)).Nodup := by
    rw [List.Nodup, List.pairwise_map]
    refine sound.increasing.imp fun hlt heq => ?_
    rw [heq] at hlt
    exact UInt64.lt_irrefl _ hlt
  exact hy.exists_attach sound.joined hnumbers

end Represents

/-! ## Runs -/

/-- Every indexed graph that is reached from the empty one has its indices in step, whatever the
operations and their outcomes are, as long as numbers are left.  It represents the graph that
the same operations lead to.  Nothing is wrong with either; a relation is found by what it says,
and the relations of an argument are listed in the order of their numbers. -/
theorem run_wellIndexed [LawfulArena G] (ops : List Graph.Operation)
    (room : ({} : IndexedGraph G).drawnBy ops < Graph.lastNumber) {x : IndexedGraph G}
    (hx : ({} : IndexedGraph G).run ops = x) :
    x.WellIndexed ∧ x.violations = [] ∧
      (∀ key id, x.findRelation? key = some id ↔ ∃ r, x.relation? id = some r ∧ r.key = key) ∧
      (∀ id, (x.incident id).Pairwise (·.number < ·.number) ∧
        ∀ n, n ∈ x.incident id ↔ ∃ r, x.relation? n = some r ∧
          (r.source = canonicalId id ∨ r.target = canonicalId id)) ∧
      x.Represents (Graph.run {} ops) ∧ (Graph.run {} ops).violations = [] := by
  obtain ⟨rep, hdrawn⟩ := represents_run_empty ops room
  rw [hdrawn] at room
  rw [hx] at rep
  obtain ⟨sound, -⟩ := Graph.run_sound ops room
  refine ⟨rep.wellIndexed sound, rep.violations_eq_nil sound, ?_, ?_, rep,
    sound.violations_eq_nil⟩
  · intro key id
    rw [rep.findRelation?_eq sound, sound.findRelation?_eq_some_iff]
    simp only [rep.relation?_eq, sound.relation?_eq_some_iff]
    exact exists_congr fun r => by rw [and_assoc, @and_comm (r.key = key)]
  · intro id
    rw [rep.incident_eq sound]
    refine ⟨sound.increasing_incident id, fun n => ?_⟩
    simp only [rep.relation?_eq, sound.relation?_eq_some_iff]
    exact Graph.mem_incident

/-- An argument that attacks itself and another one is renamed, and one that is not there is
removed. -/
theorem run_wellIndexed_renamed :
    let x := ({} : IndexedGraph (SlotArena Argument Relation)).run
      [.insertArgument { id := "a" }, .insertArgument { id := "B" },
        .insertRelation ⟨.attack, "a", "a"⟩ none, .insertRelation ⟨.attack, "a", "b"⟩ none,
        .renameArgument "A" " c ", .removeArgument "a"]
    x.WellIndexed ∧ x.violations = [] ∧ x.incident "c" = [⟨1⟩, ⟨2⟩] := by
  intro x
  obtain ⟨wellIndexed, violations, -⟩ := run_wellIndexed _ (by decide +kernel) (show _ = x from rfl)
  exact ⟨wellIndexed, violations, by decide +kernel⟩

end IndexedGraph

end Argumentation
