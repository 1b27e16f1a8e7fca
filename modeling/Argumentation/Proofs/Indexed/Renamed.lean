import Argumentation.Proofs.Indexed.Invariant

/-!
# Arguments that are renamed and renamed back

A graph in which an argument is renamed is the same graph but for a name: the argument goes to the
end with all that it has, and the ends of relations that name it follow (`Renaming`).  As nobody
had the new identifier before, the ends that have it now are those that had the old one, and to
rename the argument back gives every end its former name (`Sound.renamed_renamed`).

In an arena there is a time at which the argument stands under both identifiers, with some of its
relations at the one and some at the other.  An indexed graph comes out of this with nothing left
at the old slot, there and back (`IndexedGraph.Represents.exists_renamed`).

Main statement: `renameArgument_invertible`.
-/

namespace Argumentation

/-- An argument under another identifier. -/
def Node.under (new : String) (n : Node) : Node := ⟨new, { n.argument with id := new }⟩

theorem Node.under_under {n : Node} (h : n.argument.id = n.key) (new : String) :
    (n.under new).under n.key = n := by
  cases n with
  | mk k a =>
    obtain rfl : a.id = k := h
    rfl

namespace Graph

variable {g g' : Graph}

/-- What a graph is after an argument has gone to its end under a new identifier. -/
structure Renaming (g : Graph) (old new : String) (a : Argument) (g' : Graph) : Prop where
  /-- The argument keeps all but its identifier, and the others keep their order. -/
  arguments : g'.arguments = g.arguments.filter (·.id ≠ old) ++ [{ a with id := new }]
  /-- A relation keeps all but the ends that named the argument. -/
  relations : g'.relations = g.relations.map fun r =>
    { r with
      source := if r.source = old then new else r.source
      target := if r.target = old then new else r.target }
  /-- No number is drawn. -/
  counter : g'.counter = g.counter

/-! ## There and back -/

theorem renameEnds_renameEnds {old new : String} {r : Relation} (hs : r.source ≠ new)
    (ht : r.target ≠ new) : renameEnds new old (renameEnds old new r) = r := by
  have hend {k : String} (hk : k ≠ new) :
      (if (if k = old then new else k) = new then old else if k = old then new else k) = k := by
    split <;> simp_all
  exact congrArg₂ (fun s t => { r with source := s, target := t }) (hend hs) (hend ht)

theorem touches_renameEnds {old new : String} {r : Relation} (hs : r.source ≠ new)
    (ht : r.target ≠ new) : touches new (renameEnds old new r) = touches old r := by
  have hend {k : String} (hk : k ≠ new) : (if k = old then new else k) = new ↔ k = old := by
    split <;> simp_all
  simp only [touches, renameEnds, hend hs, hend ht]

namespace Sound

variable (sound : g.Sound)
include sound

/-- An argument that is there can be renamed to an identifier that nobody has. -/
theorem renameArgument_eq (id newId : String) {n : Node} (hn : n ∈ g.nodes)
    (hkey : n.key = canonicalId id) (hnew : canonicalId newId ∉ g.keys) :
    g.renameArgument id newId = .ok (g.renamed n (canonicalId newId),
      .argumentRenamed (canonicalId id) (canonicalId newId) ::
        (g.incident id).map .relationMoved) := by
  have hmem : canonicalId id ∈ g.keys := hkey ▸ List.mem_map_of_mem hn
  obtain ⟨m, hfind, hm, hmkey⟩ := exists_node_of_mem hmem
  rw [sound.eq_of_node_key_eq hm hn (hmkey.trans hkey.symm)] at hfind
  have hne : canonicalId id ≠ canonicalId newId := fun heq => hnew (heq ▸ hmem)
  have hincident : g.incident (canonicalId id) = g.incident id := by
    rw [incident, incident, sound.canonical_eq hmem]
  rw [renameArgument_of_ne hne hnew hfind, hincident]

/-- The others are told by their identifiers. -/
theorem map_argument_filter (k : String) :
    (g.nodes.filter (·.key ≠ k)).map (·.argument) = g.arguments.filter (·.id ≠ k) :=
  sound.toKeyed.map_argument_filter k

theorem renaming_renamed (n : Node) (new : String) :
    g.Renaming n.key new n.argument (g.renamed n new) where
  arguments := by
    rw [arguments, Graph.renamed, List.map_append, sound.map_argument_filter]
    rfl
  relations := rfl
  counter := rfl

/-- The relations of an argument are the same under both identifiers. -/
theorem incident_renamed {id newId : String} {n : Node} (hkey : n.key = canonicalId id)
    (hnew : canonicalId newId ∉ g.keys) :
    (g.renamed n (canonicalId newId)).incident newId = g.incident id := by
  have htouches : g.relations.filter (touches (canonicalId newId) ∘
      renameEnds n.key (canonicalId newId)) = g.relations.filter (touches (canonicalId id)) := by
    refine List.filter_congr fun r hr => ?_
    obtain ⟨hs, ht⟩ := sound.ends_ne hnew hr
    rw [Function.comp_apply, touches_renameEnds hs ht, hkey]
  rw [incident, Graph.renamed, List.filter_map, List.map_map, htouches]
  rfl

/-- An argument that is renamed back has only lost its place. -/
theorem renamed_renamed {n : Node} (hn : n ∈ g.nodes) {new : String} (hnew : new ∉ g.keys) :
    (g.renamed n new).renamed (n.under new) n.key =
      { g with nodes := g.nodes.filter (·.key ≠ n.key) ++ [n] } := by
  have hothers : (g.nodes.filter (·.key ≠ n.key) ++ [n.under new]).filter (·.key ≠ new) =
      g.nodes.filter (·.key ≠ n.key) := by
    have hfree : ∀ m ∈ g.nodes.filter (·.key ≠ n.key), decide (m.key ≠ new) = true := by
      intro m hm
      refine decide_eq_true fun heq => hnew ?_
      exact heq ▸ List.mem_map_of_mem (List.mem_of_mem_filter hm)
    rw [List.filter_append, List.filter_eq_self.2 hfree,
      List.filter_cons_of_neg (by simp [Node.under]), List.filter_nil, List.append_nil]
  have hrelations : (g.relations.map (renameEnds n.key new)).map (renameEnds new n.key) =
      g.relations := by
    rw [List.map_map]
    refine (List.map_congr_left fun r hr => ?_).trans (List.map_id _)
    obtain ⟨hs, ht⟩ := sound.ends_ne hnew hr
    exact renameEnds_renameEnds hs ht
  have hback : (g.renamed n new).renamed (n.under new) n.key = { g with
      nodes := (g.nodes.filter (·.key ≠ n.key) ++ [n.under new]).filter (·.key ≠ new) ++
        [(n.under new).under n.key]
      relations := (g.relations.map (renameEnds n.key new)).map (renameEnds new n.key) } := rfl
  rw [hback, hothers, hrelations, Node.under_under (sound.keyed n hn)]

/-- The identifier that an argument had is free for it to be renamed back. -/
theorem renameArgument_renamed (id newId : String) {n : Node} (hn : n ∈ g.nodes)
    (hkey : n.key = canonicalId id) (hnew : canonicalId newId ∉ g.keys) :
    (g.renamed n (canonicalId newId)).renameArgument newId id =
      .ok ({ g with nodes := g.nodes.filter (·.key ≠ n.key) ++ [n] },
        .argumentRenamed (canonicalId newId) (canonicalId id) ::
          (g.incident id).map .relationMoved) := by
  have hold : canonicalId id ∈ g.keys := hkey ▸ List.mem_map_of_mem hn
  have hne : canonicalId id ≠ canonicalId newId := fun heq => hnew (heq ▸ hold)
  have hfree : canonicalId id ∉ (g.renamed n (canonicalId newId)).keys := by
    rw [keys_renamed, hkey]
    simp [hne]
  have hunder : n.under (canonicalId newId) ∈ (g.renamed n (canonicalId newId)).nodes :=
    List.mem_append_right _ (List.mem_singleton_self _)
  have hsound := sound.renamed n (isCanonical_canonicalId newId) hnew
  have hback := hsound.renameArgument_eq newId id hunder rfl hfree
  rw [sound.incident_renamed hkey hnew] at hback
  have hrestored := sound.renamed_renamed hn hnew
  rw [hkey] at hrestored
  rw [hback, hrestored, hkey]

theorem perm_nodes {n : Node} (hn : n ∈ g.nodes) :
    (g.nodes.filter (·.key ≠ n.key) ++ [n]).Perm g.nodes := by
  have hnodup : g.nodes.Nodup := sound.nodup_keys.of_map _
  have hothers : g.nodes.filter (·.key ≠ n.key) = g.nodes.erase n := by
    rw [hnodup.erase_eq_filter]
    refine List.filter_congr fun m hm => ?_
    have hiff : m.key = n.key ↔ m = n :=
      ⟨fun heq => sound.eq_of_node_key_eq hm hn heq, fun heq => heq ▸ rfl⟩
    rw [Bool.eq_iff_iff, decide_eq_true_iff, bne_iff_ne, ne_eq, hiff]
  rw [hothers]
  exact (List.perm_append_singleton n _).trans (List.perm_cons_erase hn).symm

end Sound

end Graph

/-! ## In an arena -/

namespace IndexedGraph

variable {G : Type} [Arena Argument Relation G] [LawfulArena G] {x : IndexedGraph G} {g g' : Graph}

/-- A renaming that is made of a graph is made of every indexed graph that represents it. -/
theorem Represents.exists_renamed (rep : x.Represents g) (sound : g.Sound) {id newId : String}
    {es : List Event} (h : g.renameArgument id newId = .ok (g', es)) :
    ∃ y, x.renameArgument id newId = ⟨y, .ok es⟩ ∧ y.Represents g' ∧ y.WellIndexed := by
  obtain ⟨y, hy, hrep⟩ := (rep.follows_renameArgument sound id newId).exists_of_ok h
  exact ⟨y, hy, hrep, hrep.wellIndexed (sound.of_renameArgument h).1⟩

end IndexedGraph

/-! ## Graphs that are reached -/

namespace Graph

/-- An argument that is there is renamed to any identifier that nobody has.  Nothing else changes
but the names, what is told is the renaming and then each relation of the argument in the order of
the numbers, and to rename the argument back restores all but its place.  The same comes of every
indexed graph that represents the graph, whatever its arena is, and its indices stay in step. -/
theorem renameArgument_invertible (ops : List Operation) (room : drawnBy {} ops < lastNumber)
    (id newId : String) (a : Argument) (present : (run {} ops).argument? id = some a)
    (absent : (run {} ops).argument? newId = none) :
    let g := run {} ops
    let old := canonicalId id
    let new := canonicalId newId
    let moved := (g.incident id).map Event.relationMoved
    ((g.incident id).Pairwise (·.number < ·.number) ∧
      ∀ n, n ∈ g.incident id ↔
        ∃ r, (r ∈ g.relations ∧ r.id = n) ∧ (r.source = old ∨ r.target = old)) ∧
    ∃ g' g'',
      (g.renameArgument id newId = .ok (g', .argumentRenamed old new :: moved) ∧
        g.Renaming old new a g') ∧
      (g'.renameArgument newId id = .ok (g'', .argumentRenamed new old :: moved) ∧
        g''.arguments = g.arguments.filter (·.id ≠ old) ++ [a] ∧
        g''.arguments.Perm g.arguments ∧ g''.relations = g.relations ∧ g''.counter = g.counter) ∧
      ∀ (G : Type) [Arena Argument Relation G] [LawfulArena G] (x : IndexedGraph G),
        x.Represents g → ∃ y z,
          (x.renameArgument id newId = ⟨y, .ok (.argumentRenamed old new :: moved)⟩ ∧
            y.Represents g' ∧ y.WellIndexed) ∧
          (y.renameArgument newId id = ⟨z, .ok (.argumentRenamed new old :: moved)⟩ ∧
            z.Represents g'' ∧ z.WellIndexed) := by
  obtain ⟨sound, -⟩ := run_sound ops room
  generalize run {} ops = g at sound present absent ⊢
  intro g₀ old new moved
  have hnew : new ∉ g.keys := argument?_eq_none_iff.1 absent
  obtain ⟨n, hfind, rfl⟩ := Option.map_eq_some_iff.1 present
  have hn : n ∈ g.nodes := List.mem_of_find?_eq_some hfind
  have hkey : n.key = old := by simpa using List.find?_some hfind
  have hthere := sound.renameArgument_eq id newId hn hkey hnew
  have hback := sound.renameArgument_renamed id newId hn hkey hnew
  have hrenaming := sound.renaming_renamed n new
  have hsound := sound.renamed n (isCanonical_canonicalId newId) hnew
  have hperm := (sound.perm_nodes hn).map (·.argument)
  rw [hkey] at hback hrenaming hperm
  refine ⟨⟨sound.increasing_incident id, fun _ => mem_incident⟩, _, _, ⟨hthere, hrenaming⟩,
    ⟨hback, ?_, hperm, rfl, rfl⟩, ?_⟩
  · rw [arguments, List.map_append, sound.map_argument_filter]
    rfl
  · intro G _ _ x rep
    obtain ⟨y, hy, hyrep, hywell⟩ := rep.exists_renamed sound hthere
    obtain ⟨z, hz, hzrep, hzwell⟩ := hyrep.exists_renamed hsound hback
    exact ⟨y, z, ⟨hy, hyrep, hywell⟩, ⟨hz, hzrep, hzwell⟩⟩

/-- An argument attacks itself, attacks and supports another one, and is attacked by it. -/
theorem renameArgument_invertible_parallel :
    let a : Argument :=
      { id := "a", weight := some (1 / 2), description := some "first", position := ⟨3, 4⟩,
        strength := some 1, appearance := .accepted }
    let ops : List Operation := [.insertArgument { a with id := "A" },
      .insertArgument { id := "b" }, .insertArgument { id := "c" },
      .insertRelation ⟨.attack, "a", "a"⟩ none, .insertRelation ⟨.attack, "a", "b"⟩ (some 1),
      .insertRelation ⟨.attack, "b", "c"⟩ none, .insertRelation ⟨.support, "a", "b"⟩ none,
      .insertRelation ⟨.attack, "b", "a"⟩ none]
    let g := run {} ops
    let moved : List Event :=
      [.relationMoved ⟨1⟩, .relationMoved ⟨2⟩, .relationMoved ⟨4⟩, .relationMoved ⟨5⟩]
    (drawnBy {} ops < lastNumber ∧ g.argument? " a" = some a ∧ g.argument? "Z " = none) ∧
    ∃ g' g'', (g.renameArgument " a" "Z " = .ok (g', .argumentRenamed "a" "z" :: moved) ∧
        g.Renaming "a" "z" a g') ∧
      g'.renameArgument "Z " " a" = .ok (g'', .argumentRenamed "z" "a" :: moved) ∧
      g''.arguments = g.arguments.filter (·.id ≠ "a") ++ [a] ∧ g''.relations = g.relations := by
  intro a ops g moved
  have room : drawnBy {} ops < lastNumber := by decide +kernel
  have present : g.argument? " a" = some a := by decide +kernel
  have absent : g.argument? "Z " = none := by decide +kernel
  have hmoved : (g.incident " a").map Event.relationMoved = moved := by decide +kernel
  have hold : canonicalId " a" = "a" := by decide +kernel
  have hnew : canonicalId "Z " = "z" := by decide +kernel
  obtain ⟨-, g', g'', ⟨hthere, hrenaming⟩, ⟨hback, harguments, -, hrelations, -⟩, -⟩ :=
    renameArgument_invertible ops room " a" "Z " a present absent
  rw [hold, hnew] at hthere hrenaming hback
  rw [hold] at harguments
  rw [hmoved] at hthere hback
  exact ⟨⟨room, present, absent⟩, g', g'', ⟨hthere, hrenaming⟩, hback, harguments, hrelations⟩

end Graph

end Argumentation
