import Argumentation.Proofs.Graph.Changes
import Argumentation.Proofs.Graph.Entries

/-!
# What graphs say, as maps

A store forgets everything about a graph but which arguments and which relations there are
and with which weights.  Neither the order of the arguments nor the numbers of the relations
belong to it.

Every change of a graph is one of the store of the graph: `store_without`, `store_renamed`
and so on say which.  What is known of edits and of sessions in terms of stores rests on these.
-/

namespace Argumentation

/-! ## Stores -/

/-- The arguments and the relations that there are, with their weights. -/
@[ext] structure Store where
  /-- The weight of an argument, if there is this argument. -/
  arguments : String → Option (Option Binary64)
  /-- The weight of a relation, if there is this relation. -/
  relations : RelationKey → Option (Option Binary64)

namespace RelationKey

/-- Whether an argument is an end of the relation. -/
def Mentions (key : RelationKey) (id : String) : Prop := key.source = id ∨ key.target = id

instance (key : RelationKey) (id : String) : Decidable (key.Mentions id) :=
  inferInstanceAs (Decidable (_ ∨ _))

/-- The relation in which one identifier stands for another. -/
def substitute (old new : String) (key : RelationKey) : RelationKey :=
  ⟨key.kind, if key.source = old then new else key.source,
    if key.target = old then new else key.target⟩

theorem substitute_substitute {old new : String} {key : RelationKey} (h : ¬ key.Mentions new) :
    (key.substitute old new).substitute new old = key := by
  have hend {a : String} (ha : a ≠ new) :
      (if (if a = old then new else a) = new then old else if a = old then new else a) = a := by
    cases decEq a old with
    | isTrue heq => simp [heq]
    | isFalse hne => simp [hne, ha]
  simp only [Mentions, not_or] at h
  unfold substitute
  simp only
  rw [hend h.1, hend h.2]

theorem not_mentions_substitute {old new : String} (h : old ≠ new) (key : RelationKey) :
    ¬ (key.substitute old new).Mentions old := by
  have hend (a : String) : (if a = old then new else a) ≠ old := by
    cases decEq a old with
    | isTrue heq => simpa [heq] using h.symm
    | isFalse hne => simp [hne]
  exact not_or.2 ⟨hend key.source, hend key.target⟩

@[simp] theorem substitute_self (id : String) (key : RelationKey) :
    key.substitute id id = key := by
  have hend (a : String) : (if a = id then id else a) = a := by
    split
    · next heq => exact heq.symm
    · rfl
  simp only [substitute, hend]

end RelationKey

namespace Store

/-- The store with an argument of a weight. -/
def setArgument (s : Store) (id : String) (w : Option Binary64) : Store :=
  { s with arguments := Function.update s.arguments id (some w) }

/-- The store with a relation of a weight. -/
def setRelation (s : Store) (key : RelationKey) (w : Option Binary64) : Store :=
  { s with relations := Function.update s.relations key (some w) }

/-- The store without a relation. -/
def eraseRelation (s : Store) (key : RelationKey) : Store :=
  { s with relations := Function.update s.relations key none }

/-- The store without the relations of an argument. -/
def eraseRelationsOf (s : Store) (id : String) : Store :=
  { s with relations := fun key => if key.Mentions id then none else s.relations key }

/-- The store without an argument and its relations. -/
def eraseArgument (s : Store) (id : String) : Store :=
  { s.eraseRelationsOf id with arguments := Function.update s.arguments id none }

/-- The store in which an argument goes by another identifier, on its own and in all
relations. -/
def rename (s : Store) (old new : String) : Store where
  arguments id := if id = new then s.arguments old else if id = old then none else s.arguments id
  relations key :=
    if old ≠ new ∧ key.Mentions old then none else s.relations (key.substitute new old)

theorem rename_self (s : Store) (id : String) : s.rename id id = s := by
  ext1
  · funext other
    simp only [rename]
    split
    · next heq => rw [heq]
    · rfl
  · funext key
    simp [rename]

/-- The store with the weight of an argument settled. -/
def weigh (s : Store) (id : String) (w : Option Binary64) : Store :=
  { s with arguments := Function.update s.arguments id ((s.arguments id).map (Graph.settled · w)) }

/-- The store in which a relation says something else. -/
def replaceRelation (s : Store) (old new : RelationKey) (w : Option Binary64) : Store :=
  (s.eraseRelation old).setRelation new w

theorem replaceRelation_self {s : Store} {key : RelationKey} {w : Option Binary64}
    (h : s.relations key = some w) : s.replaceRelation key key w = s := by
  simp only [replaceRelation, setRelation, eraseRelation, Function.update_idem, ← h,
    Function.update_eq_self]

theorem replaceRelation_replaceRelation (s : Store) (old new : RelationKey)
    (v w : Option Binary64) :
    (s.replaceRelation old new v).replaceRelation new new w = s.replaceRelation old new w := by
  simp only [replaceRelation, setRelation, eraseRelation, Function.update_idem]

end Store

namespace Graph

/-- What a graph says, as maps. -/
def store (g : Graph) : Store := ⟨g.argumentEntries.get?, g.relationEntries.get?⟩

/-! ## Stores of sound graphs -/

theorem store_relations_eq_none_iff {g : Graph} {key : RelationKey} :
    g.store.relations key = none ↔ key ∉ g.relationKeys := by
  rw [store, Assoc.get?_eq_none_iff, keys_relationEntries]

theorem touches_eq (id : String) (r : Relation) : touches id r = decide (r.key.Mentions id) := by
  rw [Bool.eq_iff_iff, decide_eq_true_eq]
  simp [touches, RelationKey.Mentions, Relation.key]

section

variable {g : Graph}

/-- What keeps the content of a graph keeps its store. -/
theorem store_of_content {g g' : Graph} (h : g'.content = g.content) : g'.store = g.store := by
  rw [store, store, argumentEntries_of_content h, relationEntries_of_content h]

theorem relations_eraseRelationsOf (key : String) :
    (Assoc.get? (relationEntries
      { g with relations := g.relations.filter (!touches key ·) })) =
      (g.store.eraseRelationsOf key).relations := by
  have hentries : relationEntries { g with relations := g.relations.filter (!touches key ·) } =
      g.relationEntries.filter fun e => !decide (e.1.Mentions key) := by
    simp only [relationEntries, List.filter_map]
    congr 1
    exact List.filter_congr fun r _ => by simp only [touches_eq, Function.comp_apply]
  funext k
  rw [hentries, Assoc.get?_filter fun k : RelationKey => !decide (k.Mentions key)]
  simp only [Store.eraseRelationsOf, store, Bool.not_eq_true', decide_eq_false_iff_not, ite_not]

/-- The relations of an argument go. -/
theorem store_filter_touches (key : String) :
    store { g with relations := g.relations.filter (!touches key ·) } =
      g.store.eraseRelationsOf key := by
  ext1
  · rfl
  · exact relations_eraseRelationsOf key

/-- A relation comes. -/
theorem store_withRelation {key : RelationKey} (hnew : key ∉ g.relationKeys)
    (w : Option Binary64) : (g.withRelation key w).store = g.store.setRelation key w := by
  have hentries : (g.withRelation key w).relationEntries = g.relationEntries ++ [(key, w)] := by
    simp [relationEntries, withRelation, Relation.key]
  rw [← keys_relationEntries] at hnew
  ext1
  · rfl
  · rw [store, hentries]
    exact Assoc.get?_concat hnew w

end

/-! ## Stores of sound graphs -/

namespace Sound

variable {g : Graph} (sound : g.Sound)
include sound

theorem store_arguments_eq_none_iff {id : String} :
    g.store.arguments id = none ↔ id ∉ g.keys := by
  rw [store, Assoc.get?_eq_none_iff, sound.keys_argumentEntries]

theorem store_arguments_of_mem {n : Node} (hn : n ∈ g.nodes) :
    g.store.arguments n.key = some n.argument.weight := by
  rw [store, Assoc.get?_eq_some_iff sound.nodup_argumentEntries, mem_argumentEntries_iff]
  exact ⟨n.argument, List.mem_map_of_mem hn, sound.keyed n hn, rfl⟩

theorem store_relations_of_mem {r : Relation} (hr : r ∈ g.relations) :
    g.store.relations r.key = some r.weight := by
  rw [store, Assoc.get?_eq_some_iff sound.nodup_relationEntries, mem_relationEntries_iff]
  exact ⟨r, hr, rfl, rfl⟩

theorem argumentEntries_eq :
    g.argumentEntries = g.nodes.map fun n => (n.key, n.argument.weight) := by
  rw [argumentEntries, arguments, List.map_map]
  refine List.map_congr_left fun n hn => ?_
  simp [sound.keyed n hn]

/-! ### Arguments -/

theorem store_append_node {n : Node} (hid : n.argument.id = n.key) (hnew : n.key ∉ g.keys) :
    store { g with nodes := g.nodes ++ [n] } = g.store.setArgument n.key n.argument.weight := by
  have hentries : argumentEntries { g with nodes := g.nodes ++ [n] } =
      g.argumentEntries ++ [(n.key, n.argument.weight)] := by
    simp [argumentEntries, arguments, hid]
  rw [← sound.keys_argumentEntries] at hnew
  ext1
  · rw [store, hentries]
    exact Assoc.get?_concat hnew _
  · rfl

/-- An argument goes with its relations. -/
theorem store_without (key : String) : (g.without key).store = g.store.eraseArgument key := by
  have hentries : (g.without key).argumentEntries =
      g.argumentEntries.filter fun e => decide (e.1 ≠ key) := by
    rw [(sound.without key).argumentEntries_eq, sound.argumentEntries_eq, List.filter_map]
    rfl
  ext1
  · funext id
    simp only [store, hentries]
    rw [Assoc.get?_filter fun id => decide (id ≠ key)]
    simp [Store.eraseArgument, Function.update_apply]
  · exact relations_eraseRelationsOf key

theorem not_mentions_of_not_mem {new : String} (hnew : new ∉ g.keys) {key : RelationKey}
    (hkey : key ∈ g.relationEntries.keys) : ¬ key.Mentions new := by
  rw [keys_relationEntries] at hkey
  obtain ⟨r, hr, rfl⟩ := List.mem_map.1 hkey
  obtain ⟨hs, ht⟩ := sound.ends_ne hnew hr
  exact not_or.2 ⟨hs, ht⟩

/-- An argument goes by another identifier. -/
theorem store_renamed {n : Node} (hn : n ∈ g.nodes) {new : String} (hcanonical : IsCanonical new)
    (hnew : new ∉ g.keys) : (g.renamed n new).store = g.store.rename n.key new := by
  have hne : n.key ≠ new := fun heq => hnew (heq ▸ List.mem_map_of_mem hn)
  ext1
  · have hentries : (g.renamed n new).argumentEntries =
        (g.argumentEntries.filter fun e => decide (e.1 ≠ n.key)) ++
          [(new, n.argument.weight)] := by
      rw [(sound.renamed n hcanonical hnew).argumentEntries_eq, sound.argumentEntries_eq,
        List.filter_map, Graph.renamed, List.map_append]
      rfl
    have hfree : new ∉ Assoc.keys (g.argumentEntries.filter fun e => decide (e.1 ≠ n.key)) := by
      rw [← sound.keys_argumentEntries] at hnew
      exact fun hmem => hnew ((List.filter_sublist.map _).subset hmem)
    simp only [store, hentries]
    rw [Assoc.get?_concat hfree]
    funext id
    have hold : g.argumentEntries.get? n.key = some n.argument.weight :=
      sound.store_arguments_of_mem hn
    rw [Function.update_apply, Assoc.get?_filter fun id => decide (id ≠ n.key)]
    simp [Store.rename, hold]
  · have hentries : (g.renamed n new).relationEntries =
        g.relationEntries.map fun e => (e.1.substitute n.key new, e.2) := by
      simp only [relationEntries, Graph.renamed, List.map_map]
      rfl
    funext key
    simp only [store, Store.rename, hentries]
    cases (inferInstance : Decidable (key.Mentions n.key)) with
    | isTrue hmentions =>
      rw [if_pos ⟨hne, hmentions⟩, Assoc.get?_eq_none_iff]
      intro hmem
      obtain ⟨e, he, rfl⟩ := List.mem_map.1 hmem
      obtain ⟨d, -, rfl⟩ := List.mem_map.1 he
      exact RelationKey.not_mentions_substitute hne d.1 hmentions
    | isFalse hmentions =>
      rw [if_neg fun h => hmentions h.2]
      refine Assoc.get?_map_key fun j hj => ?_
      have hj := sound.not_mentions_of_not_mem hnew hj
      constructor
      · rintro rfl
        exact (RelationKey.substitute_substitute hj).symm
      · rintro rfl
        exact RelationKey.substitute_substitute hmentions

/-- An argument gets a weight. -/
theorem store_setArgumentWeight {id : String} (hid : IsCanonical id) (w : Option Binary64) :
    (g.setArgumentWeight id w).1.store = g.store.weigh id w := by
  rw [sound.setArgumentWeight_eq hid]
  have hentries : argumentEntries
      { g with nodes := g.nodes.map fun n => if n.key = id then weighNode w n else n } =
      g.argumentEntries.map fun e => if e.1 = id then (e.1, settled e.2 w) else e := by
    rw [sound.argumentEntries_eq, argumentEntries, arguments, List.map_map, List.map_map,
      List.map_map]
    refine List.map_congr_left fun n hn => ?_
    simp only [Function.comp_apply]
    split <;> simp [weighNode, sound.keyed n hn]
  ext1
  · rw [store, hentries]
    exact Assoc.get?_map_value (settled · w) _ id
  · rfl

/-! ### Relations -/

theorem key_eq_iff {q r : Relation} (hq : q ∈ g.relations) (hr : r ∈ g.relations) :
    q.key = r.key ↔ q.id = r.id :=
  ⟨fun h => congrArg Relation.id (sound.eq_of_key_eq hq hr h),
    fun h => congrArg Relation.key (sound.eq_of_id_eq hq hr h)⟩

/-- A relation goes. -/
theorem store_filter_id {r : Relation} (hr : r ∈ g.relations) :
    store { g with relations := g.relations.filter (·.id ≠ r.id) } =
      g.store.eraseRelation r.key := by
  have hentries : relationEntries { g with relations := g.relations.filter (·.id ≠ r.id) } =
      g.relationEntries.filter fun e => decide (e.1 ≠ r.key) := by
    simp only [relationEntries, List.filter_map]
    congr 1
    refine List.filter_congr fun q hq => ?_
    simp [sound.key_eq_iff hq hr]
  ext1
  · rfl
  · funext key
    simp only [store, hentries]
    rw [Assoc.get?_filter fun key : RelationKey => decide (key ≠ r.key)]
    simp [Store.eraseRelation, Function.update_apply]

/-- A relation says something else, which no other relation says. -/
theorem store_modifyRelation {r : Relation} (hr : r ∈ g.relations) {f : Relation → Relation}
    (hfree : ∀ q ∈ g.relations, q.key = (f r).key → q = r) :
    (g.modifyRelation r.id f).store =
      g.store.replaceRelation r.key (f r).key (f r).weight := by
  have hentries : (g.modifyRelation r.id f).relationEntries = g.relationEntries.map fun e =>
      if e.1 = r.key then ((f r).key, (f r).weight) else e := by
    simp only [relationEntries, Graph.modifyRelation, List.map_map]
    refine List.map_congr_left fun q hq => ?_
    simp only [Function.comp_apply, sound.key_eq_iff hq hr]
    split
    · next hid => rw [sound.eq_of_id_eq hq hr hid]
    · rfl
  ext1
  · rfl
  · rw [store, hentries]
    refine Assoc.get?_replace ?_ ?_ _
    · rw [keys_relationEntries]
      exact List.mem_map_of_mem hr
    · intro key hkey heq
      rw [keys_relationEntries] at hkey
      obtain ⟨q, hq, rfl⟩ := List.mem_map.1 hkey
      rw [hfree q hq heq]

/-- A relation gets a weight. -/
theorem store_setRelationWeight {r : Relation} (hr : r ∈ g.relations) (w : Option Binary64) :
    (g.setRelationWeight r.id w).1.store =
      g.store.replaceRelation r.key r.key (settled r.weight w) := by
  rw [sound.setRelationWeight_eq]
  exact sound.store_modifyRelation hr (f := weighRelation w) fun q hq heq =>
    sound.eq_of_key_eq hq hr heq

end Sound

end Graph

end Argumentation
