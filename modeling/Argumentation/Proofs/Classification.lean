import Argumentation.Classification
import Argumentation.Proofs.Graph.Entries

/-!
# What the classification depends on

The features of a framework tell whether it has a support, and whether an argument or a relation
has a weight.  So they do not depend on the order of the declarations, nor on what the weights are,
but only on which arguments and relations have one (`Framework.features_congr`).

The features of a graph are those of its framework (`Graph.Sound.features_framework`): they do not
depend on the numbers of the relations, and descriptions, places and results have no part in them
(`Graph.features_of_content`).
-/

namespace Argumentation

/-! ## Weights that are there -/

namespace Assoc

variable {κ : Type} [DecidableEq κ] {l m : Assoc κ (Option Binary64)}

/-- Whether a key has a weight, if it is there. -/
def weighed? (l : Assoc κ (Option Binary64)) (k : κ) : Option Bool := (l.get? k).map Option.isSome

theorem weighed?_eq_none_iff {k : κ} : l.weighed? k = none ↔ k ∉ l.keys := by
  rw [weighed?, Option.map_eq_none_iff, get?_eq_none_iff]

theorem any_isSome_iff (nodup : l.keys.Nodup) :
    l.any (·.2.isSome) = true ↔ ∃ k, l.weighed? k = some true := by
  rw [List.any_eq_true]
  constructor
  · rintro ⟨e, he, hweight⟩
    refine ⟨e.1, ?_⟩
    rw [weighed?, (get?_eq_some_iff nodup).2 he, Option.map_some, hweight]
  · rintro ⟨k, hk⟩
    obtain ⟨w, hget, hweight⟩ := Option.map_eq_some_iff.1 hk
    exact ⟨(k, w), mem_of_get? hget, hweight⟩

theorem any_isSome_congr (hl : l.keys.Nodup) (hm : m.keys.Nodup)
    (h : ∀ k, l.weighed? k = m.weighed? k) : l.any (·.2.isSome) = m.any (·.2.isSome) := by
  rw [Bool.eq_iff_iff, any_isSome_iff hl, any_isSome_iff hm]
  simp only [h]

/-- Equal weights are both there or both not. -/
theorem weighed?_congr {k : κ}
    (h : Option.Rel (fun v w => Binary64.optionEq v w = true) (l.get? k) (m.get? k)) :
    l.weighed? k = m.weighed? k := by
  rw [weighed?, weighed?]
  generalize l.get? k = a at h ⊢
  generalize m.get? k = b at h ⊢
  cases h with
  | none => rfl
  | @some v w hsame => cases v <;> cases w <;> simp_all [Binary64.optionEq]

end Assoc

/-! ## Frameworks -/

namespace Framework

variable {f g : Framework}

theorem supportEdges_iff :
    f.features.supportEdges = true ↔ ∃ key ∈ f.relations.keys, key.kind = .support := by
  have hsupports : f.features.supportEdges = true ↔ f.supports ≠ [] := by simp [features]
  rw [hsupports]
  constructor
  · intro hne
    obtain ⟨⟨⟨source, target⟩, w⟩, he⟩ := List.exists_mem_of_ne_nil _ hne
    exact ⟨⟨.support, source, target⟩, mem_keys_relations_iff.2 (Assoc.mem_keys_of_mem he), rfl⟩
  · rintro ⟨⟨kind, source, target⟩, hkey, rfl⟩ hnil
    have hends : (source, target) ∈ f.supports.keys := mem_keys_relations_iff.1 hkey
    rw [hnil] at hends
    cases hends

/-- Only which arguments and relations there are, and which of them have a weight, counts. -/
theorem features_congr (hf : f.Distinct) (hg : g.Distinct)
    (harguments : ∀ id, f.arguments.weighed? id = g.arguments.weighed? id)
    (hrelations : ∀ key, f.relations.weighed? key = g.relations.weighed? key) :
    f.features = g.features := by
  have hkeys (key : RelationKey) : key ∈ f.relations.keys ↔ key ∈ g.relations.keys := by
    rw [← not_iff_not, ← Assoc.weighed?_eq_none_iff, ← Assoc.weighed?_eq_none_iff, hrelations]
  have hsupports : f.features.supportEdges = g.features.supportEdges := by
    rw [Bool.eq_iff_iff, supportEdges_iff, supportEdges_iff]
    simp only [hkeys]
  rw [features, features, Features.mk.injEq]
  exact ⟨hsupports, Assoc.any_isSome_congr hf.arguments hg.arguments harguments,
    Assoc.any_isSome_congr hf.relations hg.relations hrelations⟩

/-- Frameworks of the same structure have the same features. -/
theorem features_of_sameStructure (hf : f.Distinct) (hg : g.Distinct)
    (h : f.sameStructure g = true) : f.features = g.features := by
  rw [sameStructure_iff hf hg] at h
  exact features_congr hf hg (fun id => Assoc.weighed?_congr (h.1 id))
    fun key => Assoc.weighed?_congr (h.2 key)

end Framework

/-! ## Graphs -/

namespace Graph

variable {g g' : Graph}

theorem features_eq (g : Graph) : g.features =
    { supportEdges := g.relations.any (·.kind = .support)
      nodeWeights := g.argumentEntries.any (·.2.isSome)
      edgeWeights := g.relationEntries.any (·.2.isSome) } := by
  rw [features, argumentEntries, relationEntries, List.any_map, List.any_map]
  rfl

/-- Descriptions, places and results have no part in the features. -/
theorem features_of_content (h : g'.content = g.content) : g'.features = g.features := by
  rw [features_eq, features_eq, argumentEntries_of_content h, relationEntries_of_content h,
    relations_of_content h]

/-- The features of a graph are those of its framework. -/
theorem Sound.features_framework (sound : g.Sound) : g.framework.features = g.features := by
  have hkeys (key : RelationKey) : key ∈ g.framework.relations.keys ↔ key ∈ g.relationKeys := by
    rw [← not_iff_not, ← Assoc.get?_eq_none_iff, sound.get?_relations_framework,
      Assoc.get?_eq_none_iff, keys_relationEntries]
  have hsupports : g.framework.features.supportEdges = g.relations.any (·.kind = .support) := by
    rw [Bool.eq_iff_iff, Framework.supportEdges_iff, List.any_eq_true]
    simp only [hkeys, relationKeys, List.mem_map, exists_exists_and_eq_and, decide_eq_true_eq]
    rfl
  have hnodes : g.framework.features.nodeWeights = g.argumentEntries.any (·.2.isSome) :=
    congrArg (fun l => l.any (·.2.isSome)) sound.arguments_framework
  have hedges : g.framework.features.edgeWeights = g.relationEntries.any (·.2.isSome) := by
    refine Assoc.any_isSome_congr sound.distinct_framework.relations sound.nodup_relationEntries
      fun key => ?_
    rw [Assoc.weighed?, Assoc.weighed?, sound.get?_relations_framework]
  rw [features_eq, ← hsupports, ← hnodes, ← hedges]

/-- A graph has the features of any framework that says the same. -/
theorem Sound.features_eq_of_sameStructure (sound : g.Sound) {f : Framework}
    (distinct : f.Distinct) (h : f.sameStructure g.framework = true) :
    g.features = f.features := by
  rw [← sound.features_framework]
  exact (Framework.features_of_sameStructure distinct sound.distinct_framework h).symm

end Graph

end Argumentation
