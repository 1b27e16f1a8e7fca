import Argumentation.Graph.Canonical
import Argumentation.Proofs.Framework
import Argumentation.Proofs.Graph.Sound

/-!
# Frameworks of graphs

The framework of a graph is made from the entries of the graph (`framework_eq`).  In a sound
graph no key occurs twice, so the framework has an argument or a relation with a weight exactly
if the graph has (`Sound.sameStructure_framework_iff`).

A graph with the same content has the same framework, and is sound if the other one is.
-/

namespace Argumentation.Graph

theorem framework_eq (g : Graph) :
    g.framework = Framework.ofEntries g.argumentEntries g.relationEntries := by
  rw [framework, Framework.ofEntries, argumentEntries, relationEntries, List.foldl_map,
    List.foldl_map]

/-- A graph with the entries of a framework says what the framework says. -/
theorem framework_of_entries {g : Graph} {f : Framework} (distinct : f.Distinct)
    (harguments : g.argumentEntries = f.arguments) (hrelations : g.relationEntries = f.relations) :
    g.framework = f := by
  rw [framework_eq, harguments, hrelations, distinct.ofEntries_eq]

@[simp] theorem keys_relationEntries (g : Graph) : g.relationEntries.keys = g.relationKeys := by
  rw [Assoc.keys, relationEntries, List.map_map]
  rfl

namespace Sound

variable {g : Graph} (sound : g.Sound)
include sound

theorem keys_argumentEntries : g.argumentEntries.keys = g.keys := by
  rw [← sound.map_id_arguments, Assoc.keys, argumentEntries, List.map_map]
  rfl

theorem nodup_argumentEntries : g.argumentEntries.keys.Nodup := by
  rw [sound.keys_argumentEntries]
  exact sound.nodup_keys

theorem nodup_relationEntries : g.relationEntries.keys.Nodup := by
  rw [keys_relationEntries]
  exact sound.nodup_relationKeys

theorem distinct_framework : g.framework.Distinct := by
  rw [framework_eq]
  exact Framework.distinct_ofEntries sound.nodup_argumentEntries sound.nodup_relationEntries

theorem arguments_framework : g.framework.arguments = g.argumentEntries := by
  rw [framework_eq]
  exact Framework.arguments_ofEntries sound.nodup_argumentEntries

theorem get?_relations_framework (key : RelationKey) :
    g.framework.relations.get? key = g.relationEntries.get? key := by
  rw [framework_eq]
  exact Framework.relations_get?_ofEntries sound.nodup_argumentEntries
    sound.nodup_relationEntries key

/-- The framework of a graph has the structure of another one if and only if both name the
same arguments and the same relations with equal weights. -/
theorem sameStructure_framework_iff {f : Framework} (distinct : f.Distinct) :
    g.framework.sameStructure f = true ↔
      (∀ id, Option.Rel (fun v w => Binary64.optionEq v w = true) (g.argumentEntries.get? id)
        (f.arguments.get? id)) ∧
      ∀ key, Option.Rel (fun v w => Binary64.optionEq v w = true) (g.relationEntries.get? key)
        (f.relations.get? key) := by
  rw [Framework.sameStructure_iff sound.distinct_framework distinct, sound.arguments_framework]
  simp only [sound.get?_relations_framework]

end Sound

/-! ## Content -/

section Content

variable {g g' : Graph}

theorem framework_of_content (h : g'.content = g.content) : g'.framework = g.framework := by
  rw [framework_eq, framework_eq, argumentEntries_of_content h, relationEntries_of_content h]

@[simp] theorem skeleton_content (g : Graph) : g.content.skeleton = g.skeleton := by
  simp [skeleton, content, bareNode, weightedNode]

theorem Sound.of_content (sound : g.Sound) (h : g'.content = g.content) : g'.Sound := by
  refine sound.of_skeleton_eq ?_
  rw [← skeleton_content, h, skeleton_content]

end Content

end Argumentation.Graph
