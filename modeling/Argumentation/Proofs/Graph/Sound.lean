import Argumentation.Graph.Basic
import Argumentation.Proofs.Text.Lowercase
import Mathlib.Data.List.Nodup

/-!
# Sound graphs

A graph is sound if every argument is found by its own canonical identifier and by no
other, every relation joins two arguments, no two relations say the same, and the
numbers of the relations grow and stay below the counter.

Every change of a graph keeps it sound (`Sound.insertArgument`, `Sound.removeArgument`
and so on).  Only a new relation asks for something: the counter must not be at its end,
since it starts again from zero behind its greatest number.

What a graph says about weights, descriptions, places and results has no part in this.
`skeleton` is the graph without them, and a graph is sound if and only if its skeleton
is (`sound_skeleton`).

The part of soundness that speaks of arguments only is `Keyed`.  It asks for nothing at all.
-/

namespace Argumentation.Graph

/-- The identifiers that the arguments are found by. -/
def keys (g : Graph) : List String := g.nodes.map (·.key)

/-- The keys of the relations. -/
def relationKeys (g : Graph) : List RelationKey := g.relations.map (·.key)

/-- A graph in which every argument is found by its own identifier. -/
structure Keyed (g : Graph) : Prop where
  /-- An argument is found by its own identifier. -/
  keyed : ∀ n ∈ g.nodes, n.argument.id = n.key
  /-- Identifiers are canonical. -/
  canonical : ∀ k ∈ g.keys, IsCanonical k
  /-- No two arguments are found by the same identifier. -/
  nodup : g.keys.Nodup

/-- A graph whose parts agree with each other. -/
structure Sound (g : Graph) : Prop where
  /-- An argument is found by its own identifier. -/
  keyed : ∀ n ∈ g.nodes, n.argument.id = n.key
  /-- Identifiers are canonical. -/
  canonical : ∀ k ∈ g.keys, IsCanonical k
  /-- No two arguments are found by the same identifier. -/
  nodup_keys : g.keys.Nodup
  /-- A relation joins two arguments. -/
  joined : ∀ r ∈ g.relations, r.source ∈ g.keys ∧ r.target ∈ g.keys
  /-- No two relations say the same. -/
  nodup_relationKeys : g.relationKeys.Nodup
  /-- The numbers of the relations grow. -/
  increasing : g.relations.Pairwise fun q r => q.id.number < r.id.number
  /-- The counter is beyond every number. -/
  below : ∀ r ∈ g.relations, r.id.number < g.counter.next

theorem Sound.toKeyed {g : Graph} (sound : g.Sound) : g.Keyed :=
  ⟨sound.keyed, sound.canonical, sound.nodup_keys⟩

theorem keyed_empty : Keyed {} where
  keyed := by simp
  canonical := by simp [keys]
  nodup := List.nodup_nil

theorem sound_empty : Sound {} where
  keyed := keyed_empty.keyed
  canonical := keyed_empty.canonical
  nodup_keys := keyed_empty.nodup
  joined := by simp
  nodup_relationKeys := List.nodup_nil
  increasing := List.Pairwise.nil
  below := by simp

/-- The greatest value of the counter. -/
def lastNumber : Nat := UInt64.size - 1

/-! ## Looking up -/

section Lookup

variable {g : Graph} {id : String} {key : RelationKey} {n : RelationId} {r : Relation}

theorem hasKey_iff {k : String} : g.hasKey k = true ↔ k ∈ g.keys := by
  simp [hasKey, keys]

theorem hasKey_eq_false_iff {k : String} : g.hasKey k = false ↔ k ∉ g.keys := by
  rw [← hasKey_iff, Bool.not_eq_true]

theorem contains_iff : g.contains id = true ↔ canonicalId id ∈ g.keys := hasKey_iff

theorem isSome_findRelation?_iff : (g.findRelation? key).isSome = true ↔ key ∈ g.relationKeys := by
  simp [findRelation?, relationKeys]

theorem findRelation?_eq_none_iff : g.findRelation? key = none ↔ key ∉ g.relationKeys := by
  rw [← isSome_findRelation?_iff, Bool.not_eq_true, Option.isSome_eq_false_iff,
    Option.isNone_iff_eq_none]

theorem mem_of_relation? (h : g.relation? n = some r) : r ∈ g.relations ∧ r.id = n := by
  refine ⟨List.mem_of_find?_eq_some h, ?_⟩
  simpa using List.find?_some h

theorem relation?_eq_none_iff : g.relation? n = none ↔ ∀ r ∈ g.relations, r.id ≠ n := by
  simp [relation?]

theorem exists_of_findRelation? (h : g.findRelation? key = some n) :
    ∃ r ∈ g.relations, r.key = key ∧ r.id = n := by
  obtain ⟨r, hr, hn⟩ := Option.map_eq_some_iff.1 h
  exact ⟨r, List.mem_of_find?_eq_some hr, by simpa using List.find?_some hr, hn⟩

theorem exists_of_mem_incident {id : String} (h : n ∈ g.incident id) :
    ∃ r ∈ g.relations, r.id = n := by
  obtain ⟨r, hr, heq⟩ := List.mem_map.1 h
  exact ⟨r, List.mem_of_mem_filter hr, heq⟩

end Lookup

namespace Keyed

variable {g : Graph} (keyed : g.Keyed)
include keyed

theorem map_id_arguments : g.arguments.map (·.id) = g.keys := by
  rw [arguments, keys, List.map_map]
  exact List.map_congr_left keyed.keyed

theorem canonicalId_argument {a : Argument} (ha : a ∈ g.arguments) : canonicalId a.id = a.id := by
  refine keyed.canonical _ ?_
  rw [← keyed.map_id_arguments]
  exact List.mem_map_of_mem ha

/-- An argument is told by its identifier. -/
theorem id_eq_iff {a b : Argument} (ha : a ∈ g.arguments) (hb : b ∈ g.arguments) :
    b.id = a.id ↔ b = a := by
  have hnodup : (g.arguments.map (·.id)).Nodup := by
    rw [keyed.map_id_arguments]
    exact keyed.nodup
  exact ⟨fun h => List.inj_on_of_nodup_map hnodup hb ha h, congrArg Argument.id⟩

/-- The others are told by their identifiers. -/
theorem map_argument_filter (k : String) :
    (g.nodes.filter (·.key ≠ k)).map (·.argument) = g.arguments.filter (·.id ≠ k) := by
  rw [arguments, List.filter_map]
  refine congrArg _ (List.filter_congr fun m hm => ?_)
  rw [Function.comp_apply, keyed.keyed m hm]

end Keyed

namespace Sound

variable {g : Graph} (sound : g.Sound)
include sound

theorem canonical_eq {k : String} (h : k ∈ g.keys) : canonicalId k = k := sound.canonical k h

theorem map_id_arguments : g.arguments.map (·.id) = g.keys := sound.toKeyed.map_id_arguments

theorem canonicalId_argument {a : Argument} (ha : a ∈ g.arguments) : canonicalId a.id = a.id :=
  sound.toKeyed.canonicalId_argument ha

theorem nodup_ids : (g.relations.map (·.id)).Nodup := by
  rw [List.Nodup, List.pairwise_map]
  exact sound.increasing.imp fun hlt heq => absurd hlt (by rw [heq]; exact UInt64.lt_irrefl _)

theorem eq_of_id_eq {q r : Relation} (hq : q ∈ g.relations) (hr : r ∈ g.relations)
    (h : q.id = r.id) : q = r :=
  List.inj_on_of_nodup_map sound.nodup_ids hq hr h

theorem eq_of_key_eq {q r : Relation} (hq : q ∈ g.relations) (hr : r ∈ g.relations)
    (h : q.key = r.key) : q = r :=
  List.inj_on_of_nodup_map sound.nodup_relationKeys hq hr h

theorem eq_of_node_key_eq {m n : Node} (hm : m ∈ g.nodes) (hn : n ∈ g.nodes)
    (h : m.key = n.key) : m = n :=
  List.inj_on_of_nodup_map sound.nodup_keys hm hn h

/-- A relation is found by its number. -/
theorem relation?_eq_some_iff {n : RelationId} {r : Relation} :
    g.relation? n = some r ↔ r ∈ g.relations ∧ r.id = n := by
  refine ⟨mem_of_relation?, fun ⟨hr, hn⟩ => ?_⟩
  cases hq : g.relation? n with
  | none => exact absurd hn (relation?_eq_none_iff.1 hq r hr)
  | some q =>
    obtain ⟨hmem, hid⟩ := mem_of_relation? hq
    rw [sound.eq_of_id_eq hmem hr (hid.trans hn.symm)]

/-- A relation is found by what it says. -/
theorem findRelation?_eq_some_iff {key : RelationKey} {n : RelationId} :
    g.findRelation? key = some n ↔ ∃ r ∈ g.relations, r.key = key ∧ r.id = n := by
  refine ⟨exists_of_findRelation?, fun ⟨r, hr, hkey, hn⟩ => ?_⟩
  cases hq : g.findRelation? key with
  | none => exact absurd (hkey ▸ List.mem_map_of_mem hr) (findRelation?_eq_none_iff.1 hq)
  | some m =>
    obtain ⟨q, hq, hqkey, hqid⟩ := exists_of_findRelation? hq
    rw [← hqid, sound.eq_of_key_eq hq hr (hqkey.trans hkey.symm), hn]

theorem nodup_incident (id : String) : (g.incident id).Nodup :=
  sound.nodup_ids.sublist (List.filter_sublist.map _)

theorem mem_incident_iff {id : String} {r : Relation} (hr : r ∈ g.relations) :
    r.id ∈ g.incident id ↔ touches (canonicalId id) r = true := by
  constructor
  · intro hincident
    obtain ⟨q, hq, heq⟩ := List.mem_map.1 hincident
    obtain ⟨hmem, htouch⟩ := List.mem_filter.1 hq
    rwa [← sound.eq_of_id_eq hmem hr heq]
  · intro htouch
    exact List.mem_map_of_mem (List.mem_filter.2 ⟨hr, htouch⟩)

theorem filter_not_mem_incident (id : String) :
    g.relations.filter (·.id ∉ g.incident id) =
      g.relations.filter (!touches (canonicalId id) ·) := by
  refine List.filter_congr fun r hr => ?_
  rw [Bool.eq_iff_iff, decide_eq_true_eq, sound.mem_incident_iff hr, Bool.not_eq_true',
    Bool.not_eq_true]

end Sound

/-! ## The skeleton -/

/-- An argument of which only the identifier is left. -/
def bareNode (n : Node) : Node := ⟨n.key, { id := n.argument.id }⟩

/-- A relation of which all but the weight is left. -/
def bareRelation (r : Relation) : Relation := { r with weight := none }

/-- The graph without weights, descriptions, places and results. -/
def skeleton (g : Graph) : Graph where
  nodes := g.nodes.map bareNode
  relations := g.relations.map bareRelation
  counter := g.counter

@[simp] theorem keys_skeleton (g : Graph) : g.skeleton.keys = g.keys := by
  simp [keys, skeleton, bareNode]

@[simp] theorem relationKeys_skeleton (g : Graph) : g.skeleton.relationKeys = g.relationKeys := by
  simp [relationKeys, skeleton, bareRelation, Relation.key]

theorem keyed_skeleton {g : Graph} : g.skeleton.Keyed ↔ g.Keyed := by
  have hkeyed : (∀ n ∈ g.skeleton.nodes, n.argument.id = n.key) ↔
      ∀ n ∈ g.nodes, n.argument.id = n.key := List.forall_mem_map
  constructor
  · rintro ⟨keyed, canonical, nodup⟩
    rw [keys_skeleton] at canonical nodup
    exact ⟨hkeyed.1 keyed, canonical, nodup⟩
  · rintro ⟨keyed, canonical, nodup⟩
    refine ⟨hkeyed.2 keyed, ?_, ?_⟩
    · rwa [keys_skeleton]
    · rwa [keys_skeleton]

/-- Weights, descriptions, places and results have no part in soundness. -/
theorem sound_skeleton {g : Graph} : g.skeleton.Sound ↔ g.Sound := by
  have hjoined : (∀ r ∈ g.skeleton.relations, r.source ∈ g.keys ∧ r.target ∈ g.keys) ↔
      ∀ r ∈ g.relations, r.source ∈ g.keys ∧ r.target ∈ g.keys := List.forall_mem_map
  have hincreasing : (g.skeleton.relations.Pairwise fun q r => q.id.number < r.id.number) ↔
      g.relations.Pairwise fun q r => q.id.number < r.id.number := List.pairwise_map
  have hbelow : (∀ r ∈ g.skeleton.relations, r.id.number < g.counter.next) ↔
      ∀ r ∈ g.relations, r.id.number < g.counter.next := List.forall_mem_map
  constructor
  · intro sound
    obtain ⟨keyed, canonical, nodup⟩ := keyed_skeleton.1 sound.toKeyed
    obtain ⟨-, -, -, joined, nodupRelations, increasing, below⟩ := sound
    rw [keys_skeleton] at joined
    rw [relationKeys_skeleton] at nodupRelations
    exact ⟨keyed, canonical, nodup, hjoined.1 joined, nodupRelations,
      hincreasing.1 increasing, hbelow.1 below⟩
  · intro sound
    obtain ⟨keyed, canonical, nodup⟩ := keyed_skeleton.2 sound.toKeyed
    refine ⟨keyed, canonical, nodup, ?_, ?_, hincreasing.2 sound.increasing,
      hbelow.2 sound.below⟩
    · rw [keys_skeleton]
      exact hjoined.2 sound.joined
    · rw [relationKeys_skeleton]
      exact sound.nodup_relationKeys

theorem Keyed.of_skeleton_eq {g h : Graph} (keyed : g.Keyed) (heq : h.skeleton = g.skeleton) :
    h.Keyed := by
  rw [← keyed_skeleton, heq]
  exact keyed_skeleton.2 keyed

theorem Sound.of_skeleton_eq {g h : Graph} (sound : g.Sound) (heq : h.skeleton = g.skeleton) :
    h.Sound := by
  rw [← sound_skeleton, heq]
  exact sound_skeleton.2 sound

end Argumentation.Graph
