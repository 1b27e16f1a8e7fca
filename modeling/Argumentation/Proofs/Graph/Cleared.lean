import Argumentation.Proofs.Edit
import Argumentation.Proofs.Overlay

/-!
# Changes do not look at results

A change of a graph does the same whether results are shown or not: to discard the results first,
and to discard them afterwards, gives the same graph, the same events and the same error
(`insertArgument_clearResults` and so on).  So it is with edits (`Edit.apply_clearResults`).

An argument that is renamed takes its results along, which is why they are discarded on both
sides and not only before.
-/

namespace Argumentation

namespace Graph

open Overlay

/-- A node whose argument shows no result. -/
def clearNode (n : Node) : Node := { n with argument := n.argument.clearResults }

/-- A graph without results, and what came with it. -/
def cleared {α : Type} (r : Graph × α) : Graph × α := (clearResults r.1, r.2)

/-! ## Looking up -/

theorem nodes_clearResults (g : Graph) : (clearResults g).nodes = g.nodes.map clearNode := rfl

@[simp] theorem hasKey_clearResults (g : Graph) (k : String) :
    (clearResults g).hasKey k = g.hasKey k := by
  simp only [hasKey, nodes_clearResults, List.any_map]
  rfl

@[simp] theorem contains_clearResults (g : Graph) (id : String) :
    (clearResults g).contains id = g.contains id := hasKey_clearResults g _

theorem find?_clearResults (g : Graph) (k : String) :
    (clearResults g).nodes.find? (·.key = k) = (g.nodes.find? (·.key = k)).map clearNode := by
  rw [nodes_clearResults, List.find?_map]
  rfl

theorem argument?_clearResults (g : Graph) (id : String) :
    (clearResults g).argument? id = (g.argument? id).map Argument.clearResults := by
  rw [argument?, argument?, find?_clearResults]
  cases g.nodes.find? (·.key = canonicalId id) <;> rfl

/-! ## Changes of arguments -/

theorem filter_clearNode (nodes : List Node) (k : String) :
    (nodes.map clearNode).filter (·.key ≠ k) = (nodes.filter (·.key ≠ k)).map clearNode := by
  rw [List.filter_map]
  rfl

/-- What a new argument shows does not count. -/
theorem insertArgument_clearResults (g : Graph) {a : Argument} (ha : a.clearResults = a) :
    (clearResults g).insertArgument a = (g.insertArgument a).map cleared := by
  have hnode (k : String) : clearNode ⟨k, { a with id := k }⟩ = ⟨k, { a with id := k }⟩ :=
    congrArg (fun b : Argument => (⟨k, { b with id := k }⟩ : Node)) ha
  simp only [insertArgument, hasKey_clearResults]
  split
  · rfl
  · simp only [Except.map, cleared, clearResults, mapArguments, List.map_append, List.map_cons,
      List.map_nil]
    exact congrArg (fun n => Except.ok (({ g with nodes := g.nodes.map clearNode ++ [n] } : Graph),
      Event.argumentAdded (canonicalId a.id))) (hnode _).symm

theorem removeArgument_clearResults (g : Graph) (id : String) :
    (clearResults g).removeArgument id = (g.removeArgument id).map cleared := by
  simp only [removeArgument, hasKey_clearResults]
  split
  · rfl
  · simp only [nodes_clearResults, filter_clearNode]
    rfl

theorem renamed_clearResults (g : Graph) (n : Node) (new : String) :
    (clearResults g).renamed (clearNode n) new = clearResults (g.renamed n new) := by
  have hnodes : ((clearResults g).renamed (clearNode n) new).nodes =
      (clearResults (g.renamed n new)).nodes := by
    rw [nodes_clearResults, renamed, renamed, nodes_clearResults, List.map_append]
    exact congrArg (· ++ _) (filter_clearNode g.nodes n.key)
  exact congrArg (fun nodes => { g with
    nodes
    relations := g.relations.map (renameEnds n.key new) }) hnodes

theorem renameArgument_clearResults (g : Graph) (id newId : String) :
    (clearResults g).renameArgument id newId = (g.renameArgument id newId).map cleared := by
  cases decEq (canonicalId id) (canonicalId newId) with
  | isTrue heq =>
    rw [renameArgument_of_eq heq, renameArgument_of_eq heq]
    rfl
  | isFalse hne =>
    simp only [renameArgument, if_neg hne, hasKey_clearResults, find?_clearResults]
    split
    · rfl
    · cases hn : g.nodes.find? (·.key = canonicalId id) with
      | none => rfl
      | some n =>
        have hkey : n.key = canonicalId id := by simpa using List.find?_some hn
        have hrenamed := renamed_clearResults g n (canonicalId newId)
        rw [← hkey]
        exact congrArg (fun g' => Except.ok (g', _)) hrenamed

theorem modifyArgument_clearResults (g : Graph) (id : String) {f : Argument → Argument}
    (hf : ∀ a, f a.clearResults = (f a).clearResults) :
    (clearResults g).modifyArgument id f = clearResults (g.modifyArgument id f) := by
  have hnodes : ((clearResults g).modifyArgument id f).nodes =
      (clearResults (g.modifyArgument id f)).nodes := by
    simp only [clearResults, mapArguments, modifyArgument, List.map_map]
    refine List.map_congr_left fun n _ => ?_
    simp only [Function.comp_apply]
    split
    · rw [hf]
    · rfl
  exact congrArg (fun nodes => { g with nodes }) hnodes

theorem setArgumentWeight_clearResults (g : Graph) (id : String) (w : Option Binary64) :
    (clearResults g).setArgumentWeight id w = cleared (g.setArgumentWeight id w) := by
  have hmodify := modifyArgument_clearResults g id (f := fun a => { a with weight := w })
    fun _ => rfl
  rw [setArgumentWeight, setArgumentWeight, argument?_clearResults]
  cases g.argument? id with
  | none => rfl
  | some a =>
    have hweight : a.clearResults.weight = a.weight := rfl
    have hid : a.clearResults.id = a.id := rfl
    simp only [Option.map_some, hweight, hid, hmodify]
    split <;> rfl

/-! ## Changes of relations -/

theorem insertRelation_clearResults (g : Graph) (key : RelationKey) (w : Option Binary64) :
    (clearResults g).insertRelation key w = (g.insertRelation key w).map cleared := by
  have hfind (k : RelationKey) : (clearResults g).findRelation? k = g.findRelation? k := rfl
  simp only [insertRelation, hasKey_clearResults, hfind]
  split
  · rfl
  · split
    · rfl
    · split <;> rfl

theorem removeRelation_clearResults (g : Graph) (id : RelationId) :
    (clearResults g).removeRelation id = (g.removeRelation id).map cleared := by
  have hrelation : (clearResults g).relation? id = g.relation? id := rfl
  rw [removeRelation, removeRelation, hrelation]
  split <;> rfl

theorem setRelationWeight_clearResults (g : Graph) (id : RelationId) (w : Option Binary64) :
    (clearResults g).setRelationWeight id w = cleared (g.setRelationWeight id w) := by
  have hrelation : (clearResults g).relation? id = g.relation? id := rfl
  rw [setRelationWeight, setRelationWeight, hrelation]
  split
  · rfl
  · split <;> rfl

theorem setRelationKind_clearResults (g : Graph) (id : RelationId) (kind : RelationKind) :
    (clearResults g).setRelationKind id kind = (g.setRelationKind id kind).map cleared := by
  have hrelation : (clearResults g).relation? id = g.relation? id := rfl
  have hfind (k : RelationKey) : (clearResults g).findRelation? k = g.findRelation? k := rfl
  rw [setRelationKind, setRelationKind, hrelation]
  simp only [hfind]
  split
  · rfl
  · split
    · rfl
    · split <;> rfl

theorem reverseRelation_clearResults (g : Graph) (id : RelationId) :
    (clearResults g).reverseRelation id = (g.reverseRelation id).map cleared := by
  have hrelation : (clearResults g).relation? id = g.relation? id := rfl
  have hfind (k : RelationKey) : (clearResults g).findRelation? k = g.findRelation? k := rfl
  rw [reverseRelation, reverseRelation, hrelation]
  simp only [hfind]
  split
  · rfl
  · split
    · rfl
    · split <;> rfl

end Graph

/-! ## Edits -/

namespace Edit

open Argumentation.Graph Overlay

/-- A step that goes on from what a change did. -/
theorem map_bind_cleared {α β : Type} {x : Except Error (Graph × α)}
    {f f' : Graph × α → Except Error (Graph × β)}
    (h : ∀ r, f' (cleared r) = (f r).map cleared) :
    (x.map cleared >>= f') = (x >>= f).map cleared := by
  cases x with
  | error e => rfl
  | ok r => exact h r

/-- A check that comes before. -/
theorem bind_cleared {α β : Type} {x : Except Error α} {f f' : α → Except Error (Graph × β)}
    (h : ∀ a, f' a = (f a).map cleared) : (x >>= f') = (x >>= f).map cleared := by
  cases x with
  | error e => rfl
  | ok a => exact h a

theorem describe_clearResults (g : Graph) (id : String) (description : Option String) :
    describe (clearResults g) id description = cleared (describe g id description) := by
  have hmodify := modifyArgument_clearResults g id (f := fun a => { a with description })
    fun _ => rfl
  rw [describe, describe, argument?_clearResults]
  cases g.argument? id with
  | none => rfl
  | some a =>
    have hdescription : a.clearResults.description = a.description := rfl
    simp only [Option.map_some, hdescription, hmodify]
    split <;> rfl

theorem removeAll_clearResults (g : Graph) (ids : List RelationId) :
    removeAll (clearResults g) ids = (removeAll g ids).map cleared := by
  induction ids generalizing g with
  | nil => rfl
  | cons id ids ih =>
    rw [removeAll, removeAll, removeRelation_clearResults]
    refine map_bind_cleared fun r => ?_
    simp only [cleared, ih]
    exact map_bind_cleared fun _ => rfl

theorem redescribe_cleared (id : String) (w : Option Binary64) (description : Option String)
    (r : Graph × List Event) :
    redescribe id w description (cleared r) = cleared (redescribe id w description r) := by
  simp only [redescribe, cleared, setArgumentWeight_clearResults, describe_clearResults]

theorem update_clearResults (limits : Limits) (g : Graph) (id newId : String)
    (w : Option Binary64) (description : Option String) :
    update limits (clearResults g) id newId w description =
      (update limits g id newId w description).map cleared := by
  rw [update, update]
  refine bind_cleared fun _ => bind_cleared fun text => ?_
  rw [contains_clearResults, renameArgument_clearResults]
  split
  · rfl
  · refine map_bind_cleared fun r => ?_
    exact congrArg Except.ok (redescribe_cleared (canonicalId newId) w text r)

/-- An edit does the same whether results are shown or not. -/
theorem apply_clearResults (limits : Limits) (g : Graph) (e : Edit) :
    e.apply limits (clearResults g) = (e.apply limits g).map cleared := by
  cases e with
  | addArgument id w description position =>
    refine bind_cleared fun _ => bind_cleared fun text => ?_
    rw [insertArgument_clearResults g rfl]
    exact map_bind_cleared fun _ => rfl
  | editArgument id newId w description => exact update_clearResults limits g id newId w description
  | removeArgument id => exact removeArgument_clearResults g id
  | clearRelations id =>
    rw [apply, apply, contains_clearResults]
    split
    · rfl
    · exact removeAll_clearResults g (g.incident id)
  | addRelation key w =>
    refine bind_cleared fun _ => ?_
    rw [insertRelation_clearResults]
    exact map_bind_cleared fun _ => rfl
  | editRelation id kind w =>
    refine bind_cleared fun _ => ?_
    rw [setRelationKind_clearResults]
    refine map_bind_cleared fun r => ?_
    simp only [cleared, setRelationWeight_clearResults]
    rfl
  | reverseRelation id =>
    rw [apply, apply, reverseRelation_clearResults]
    exact map_bind_cleared fun _ => rfl
  | switchRelation id =>
    have hrelation : (clearResults g).relation? id = g.relation? id := rfl
    rw [apply, apply, hrelation]
    cases g.relation? id with
    | none => rfl
    | some r =>
      simp only
      rw [setRelationKind_clearResults]
      exact map_bind_cleared fun _ => rfl
  | removeRelation id =>
    rw [apply, apply, removeRelation_clearResults]
    exact map_bind_cleared fun _ => rfl

end Edit

end Argumentation
