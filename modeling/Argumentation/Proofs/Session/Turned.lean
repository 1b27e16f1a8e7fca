import Argumentation.Proofs.Graph.Cleared
import Argumentation.Proofs.Indexed.Edit
import Argumentation.Proofs.Session.Agreement

/-!
# Relations that are turned and turned back

A relation is turned round or turned over into one of the other kind.  Both are one step with a
change of the relation that is its own inverse (`Turn.relation`), and both are refused if another
relation says already what would come of it (`Turn.Free`).  An argument that relates to itself is no
obstacle: turned round, its relation says what it said before.

What stands in the way of turning a relation back is another relation that says what it said, and
there is none, since no two relations of a graph say the same (`Turn.free_turned`).  So what is
turned once is turned twice, and then the graph is what it was (`Turn.apply_turned`).

Main statement: `edit_turned_back`.
-/

namespace Argumentation

/-- A way to turn a relation. -/
inductive Turn where
  /-- Its ends change places. -/
  | reverse
  /-- An attack becomes a support, and a support an attack. -/
  | switch
  deriving DecidableEq

namespace Turn

open Argumentation.Graph

/-! ## One step for both -/

/-- The edit that turns a relation. -/
def edit : Turn → RelationId → Edit
  | reverse, id => .reverseRelation id
  | switch, id => .switchRelation id

/-- The relation that comes of a turn. -/
def relation : Turn → Relation → Relation
  | reverse, r => { r with source := r.target, target := r.source }
  | switch, r => { r with kind := r.kind.opposite }

/-- What a turn is told as. -/
def event : Turn → RelationId → Event
  | reverse, id => .relationMoved id
  | switch, id => .relationUpdated id

/-- The graph after a turn. -/
def graph (turn : Turn) (g : Graph) (id : RelationId) : Graph := g.modifyRelation id turn.relation

/-- Whether no other relation says what comes of a turn. -/
def Free (turn : Turn) (g : Graph) (r : Relation) : Prop :=
  ∀ q ∈ g.relations, q.key = (turn.relation r).key → q.id = r.id

variable (turn : Turn) {limits : Limits} {g g' : Graph} {id : RelationId} {r : Relation}

@[simp] theorem relation_relation (r : Relation) : turn.relation (turn.relation r) = r := by
  cases turn with
  | reverse => rfl
  | switch => simp [relation]

@[simp] theorem id_relation (r : Relation) : (turn.relation r).id = r.id := by
  cases turn <;> rfl

/-- A relation that may be the one that is turned. -/
theorem id_ite_relation (id : RelationId) (q : Relation) :
    (if q.id = id then turn.relation q else q).id = q.id := by
  split <;> simp

theorem ends_relation {keys : List String} (h : r.source ∈ keys ∧ r.target ∈ keys) :
    (turn.relation r).source ∈ keys ∧ (turn.relation r).target ∈ keys := by
  cases turn with
  | reverse => exact h.symm
  | switch => exact h

/-! ## Turning back -/

/-- To turn a relation of a graph twice is to leave the graph alone. -/
theorem graph_graph (g : Graph) (id : RelationId) : turn.graph (turn.graph g id) id = g := by
  have hrelations : (turn.graph (turn.graph g id) id).relations = g.relations := by
    simp only [graph, modifyRelation, List.map_map]
    refine (List.map_congr_left fun q _ => ?_).trans (List.map_id _)
    rw [Function.comp_apply]
    split
    · next hq =>
      rw [id_relation, if_pos hq, relation_relation]
      rfl
    · rfl
  exact congrArg (fun relations => { g with relations }) hrelations

/-- No other relation is changed. -/
theorem filter_graph (g : Graph) (id : RelationId) :
    (turn.graph g id).relations.filter (·.id ≠ id) = g.relations.filter (·.id ≠ id) := by
  have hother : ∀ q ∈ g.relations.filter (·.id ≠ id),
      (if q.id = id then turn.relation q else q) = q := by
    intro q hq
    exact if_neg (of_decide_eq_true (List.mem_filter.1 hq).2)
  have hsame : (fun q : Relation => decide (q.id ≠ id)) ∘
      (fun q => if q.id = id then turn.relation q else q) = fun q => decide (q.id ≠ id) :=
    funext fun q => by rw [Function.comp_apply, id_ite_relation]
  rw [graph, modifyRelation, List.filter_map, hsame]
  exact (List.map_congr_left hother).trans (List.map_id _)

theorem relationIds_graph (g : Graph) (id : RelationId) :
    (turn.graph g id).relationIds = g.relationIds := by
  rw [relationIds, graph, modifyRelation, List.map_map]
  exact List.map_congr_left fun q _ => turn.id_ite_relation id q

theorem relation?_graph (h : g.relation? id = some r) :
    (turn.graph g id).relation? id = some (turn.relation r) := by
  have hsame : (fun q : Relation => decide (q.id = id)) ∘
      (fun q => if q.id = id then turn.relation q else q) = fun q => decide (q.id = id) :=
    funext fun q => by rw [Function.comp_apply, id_ite_relation]
  have hfind : g.relations.find? (·.id = id) = some r := h
  obtain ⟨-, hid⟩ := mem_of_relation? h
  rw [relation?, graph, modifyRelation, List.find?_map, hsame, hfind, Option.map_some, if_pos hid]

variable {turn} (sound : g.Sound)
include sound

theorem sound_graph (h : g.relation? id = some r) (free : turn.Free g r) :
    (turn.graph g id).Sound := by
  obtain ⟨hr, rfl⟩ := mem_of_relation? h
  refine sound.modifyRelation turn.id_relation
    (fun q hq _ => turn.ends_relation (sound.joined q hq)) fun q hq hid p hp hne heq => ?_
  rw [sound.eq_of_id_eq hq hr hid] at heq
  exact hne (free p hp heq)

/-- No other relation says what the relation said that is turned. -/
theorem free_turned (h : g.relation? id = some r) :
    turn.Free (turn.graph g id) (turn.relation r) := by
  obtain ⟨hr, rfl⟩ := mem_of_relation? h
  intro q hq hkey
  obtain ⟨p, hp, rfl⟩ := List.mem_map.1 hq
  rw [relation_relation] at hkey
  rw [id_relation]
  by_cases hid : p.id = r.id
  · rw [if_pos hid, id_relation, hid]
  · rw [if_neg hid] at hkey
    rw [if_neg hid, sound.eq_of_key_eq hp hr hkey]

/-! ## When a turn is refused -/

theorem apply_of_free (h : g.relation? id = some r) (free : turn.Free g r) :
    (turn.edit id).apply limits g = .ok (turn.graph g id, [turn.event id]) := by
  obtain ⟨hr, rfl⟩ := mem_of_relation? h
  cases turn with
  | reverse =>
    have hreverse := reverseRelation_of_free h fun other hother => by
      obtain ⟨q, hq, hkey, rfl⟩ := exists_of_findRelation? hother
      exact free q hq hkey
    rw [edit, Edit.apply, hreverse]
    rfl
  | switch =>
    have hne : r.kind ≠ r.kind.opposite := (RelationKind.opposite_ne r.kind).symm
    have hnew : ⟨r.kind.opposite, r.source, r.target⟩ ∉ g.relationKeys := by
      intro hmem
      obtain ⟨q, hq, hkey⟩ := List.mem_map.1 hmem
      rw [sound.eq_of_id_eq hq hr (free q hq hkey)] at hkey
      exact hne (congrArg RelationKey.kind hkey)
    have hturned := sound.modifyRelation_congr hr (fun q => { q with kind := r.kind.opposite })
      switch.relation rfl
    rw [edit, Edit.apply, h]
    simp only
    rw [setRelationKind_of_not_mem h hne hnew, hturned]
    rfl

/-- A turn that is not refused is free. -/
theorem exists_of_apply {es : List Event} (h : (turn.edit id).apply limits g = .ok (g', es)) :
    ∃ r, g.relation? id = some r ∧ turn.Free g r := by
  cases turn with
  | reverse =>
    cases Edit.done_of_apply h with
    | reverseRelation hreverse =>
      obtain ⟨r, hr, hfree, -, -⟩ := reverseRelation_inv hreverse
      obtain ⟨-, hid⟩ := mem_of_relation? hr
      refine ⟨r, hr, fun q hq hkey => ?_⟩
      exact (hfree q.id (sound.findRelation?_eq_some_iff.2 ⟨q, hq, hkey, rfl⟩)).trans hid.symm
  | switch =>
    cases Edit.done_of_apply h with
    | @switchRelation _ r _ _ hr hkind =>
      obtain ⟨r', hr', hsame | hchanged⟩ := setRelationKind_inv hkind
      · cases hr.symm.trans hr'
        exact absurd hsame.1.symm (RelationKind.opposite_ne r.kind)
      · cases hr.symm.trans hr'
        refine ⟨r, hr, fun q hq hkey => ?_⟩
        have hmem := List.mem_map_of_mem (f := Relation.key) hq
        rw [hkey] at hmem
        exact absurd hmem hchanged.2.1

/-- What is turned once changes one relation and can be turned back. -/
theorem apply_turned {es : List Event} (h : (turn.edit id).apply limits g = .ok (g', es)) :
    (∃ r, g.relation? id = some r ∧ g'.relation? id = some (turn.relation r)) ∧
      g' = turn.graph g id ∧ es = [turn.event id] ∧ g'.Sound ∧
      (turn.edit id).apply limits g' = .ok (g, [turn.event id]) := by
  obtain ⟨r, hr, free⟩ := exists_of_apply sound h
  rw [apply_of_free sound hr free] at h
  cases h
  have hturned := turn.relation?_graph hr
  have hsound := sound_graph sound hr free
  have hback : (turn.edit id).apply limits (turn.graph g id) = _ :=
    apply_of_free hsound hturned (free_turned sound hr)
  rw [graph_graph] at hback
  exact ⟨⟨r, hr, hturned⟩, rfl, rfl, hsound, hback⟩

end Turn

namespace Session

variable {s : Session} {turn : Turn} {id : RelationId}

/-- A turn of a session in which nothing is under way: the graph is turned without its results, and
the description follows. -/
theorem edit_of_turned (idle : s.mode = .idle)
    (h : (turn.edit id).apply s.config.limits s.graph =
      .ok (turn.graph s.graph id, [turn.event id])) :
    ∃ t outcome, s.edit (turn.edit id) = (t, .ok outcome) ∧
      t.graph = Overlay.clearResults (turn.graph s.graph id) ∧
      t.description = (turn.graph s.graph id).toText ∧
      t.config = s.config ∧ t.mode = .idle ∧ outcome.events = [turn.event id] := by
  have hdispatch := dispatch_of_idle (s := { s with graph := turn.graph s.graph id }) idle
    (turn.event id) []
  rw [edit_of_ok h, hdispatch]
  refine ⟨_, _, rfl, rfl, ?_, rfl, rfl, rfl⟩
  exact Graph.toText_of_content (Overlay.content_clearResults (turn.graph s.graph id))

/-- Reversal and the switch of the kind are their own undo.  If one of them succeeds in a session
that is reached, it has changed that one relation and told so.  It succeeds again, and then the
graph is what it was before the first one, only without results, and the description is the
canonical text of the graph before.  In an arena, where an edge is taken out and put in again, the
same comes of it. -/
theorem edit_turned_back (config : Config) (ops : List Operation)
    (room : (new config).drawnBy ops < Graph.lastNumber) (turn : Turn) (id : RelationId)
    (outcome : Outcome) (accepted : (((new config).run ops).edit (turn.edit id)).2 = .ok outcome) :
    let s := (new config).run ops
    let t := (s.edit (turn.edit id)).1
    let u := (t.edit (turn.edit id)).1
    ((∃ r, s.graph.relation? id = some r ∧ t.graph.relation? id = some (turn.relation r)) ∧
      t.graph.relations.filter (·.id ≠ id) = s.graph.relations.filter (·.id ≠ id) ∧
      t.graph.relationIds = s.graph.relationIds ∧
      t.graph.arguments = s.graph.arguments.map Argument.clearResults ∧
      outcome.events = [turn.event id]) ∧
    ((∃ again, (t.edit (turn.edit id)).2 = .ok again ∧ again.events = [turn.event id]) ∧
      u.graph = Overlay.clearResults s.graph ∧ u.description = s.graph.toText) ∧
    ∀ (G : Type) [Arena Argument Relation G] [LawfulArena G] (x : IndexedGraph G),
      x.Represents s.graph → ∃ y z,
        (x.edit config.limits (turn.edit id) = ⟨y, .ok [turn.event id]⟩ ∧
          y.Represents (turn.graph s.graph id)) ∧
        y.edit config.limits (turn.edit id) = ⟨z, .ok [turn.event id]⟩ ∧ z.Represents s.graph := by
  have agrees := run_agrees config ops room
  generalize (new config).run ops = s at agrees accepted ⊢
  rw [← agrees.config_eq]
  cases happly : (turn.edit id).apply s.config.limits s.graph with
  | error e =>
    rw [edit_of_error happly] at accepted
    cases accepted
  | ok p =>
    obtain ⟨g, es⟩ := p
    obtain ⟨⟨r, hr, hturned⟩, rfl, rfl, hsound, hback⟩ := Turn.apply_turned agrees.sound happly
    obtain ⟨t, o, ht, htgraph, -, htconfig, htidle, hevents⟩ := edit_of_turned agrees.idle happly
    have hgraph : turn.graph t.graph id = Overlay.clearResults s.graph := by
      rw [htgraph]
      exact congrArg Overlay.clearResults (turn.graph_graph s.graph id)
    have hagain : (turn.edit id).apply t.config.limits t.graph =
        .ok (turn.graph t.graph id, [turn.event id]) := by
      rw [hgraph, htconfig, htgraph, Edit.apply_clearResults, hback]
      rfl
    obtain ⟨u, again, hu, hugraph, hutext, -, -, hevents'⟩ := edit_of_turned htidle hagain
    rw [ht] at accepted
    cases accepted
    rw [hgraph] at hugraph hutext
    simp only [ht, hu]
    refine ⟨⟨⟨r, hr, ?_⟩, ?_, ?_, ?_, hevents⟩, ⟨⟨again, rfl, hevents'⟩, ?_, ?_⟩, ?_⟩
    · rw [htgraph]
      exact hturned
    · rw [htgraph]
      exact turn.filter_graph s.graph id
    · rw [htgraph]
      exact turn.relationIds_graph s.graph id
    · rw [htgraph, Overlay.arguments_clearResults]
      rfl
    · rw [hugraph, Overlay.clearResults_clearResults]
    · rw [hutext]
      exact Graph.toText_of_content (Overlay.content_clearResults s.graph)
    · intro G _ _ x rep
      obtain ⟨y, hy, hyrep⟩ := (rep.follows_edit agrees.sound (turn.edit id)).exists_of_ok happly
      obtain ⟨z, hz, hzrep⟩ := (hyrep.follows_edit hsound (turn.edit id)).exists_of_ok hback
      exact ⟨y, z, ⟨hy, hyrep⟩, hz, hzrep⟩

/-- An argument attacks and supports itself, two arguments attack one another, and strengths are
shown.  The attack on itself is turned round and back, and one of the other attacks is turned over
and back; neither can be turned the other way. -/
theorem edit_turned_back_mutual :
    let ops : List Operation := [.edit (.addArgument "a" (some (1 / 2)) (some "first") ⟨3, 4⟩),
      .edit (.addArgument "b" none none {}), .edit (.addRelation ⟨.attack, "a", "a"⟩ none),
      .edit (.addRelation ⟨.support, "a", "a"⟩ none), .edit (.addRelation ⟨.attack, "a", "b"⟩ none),
      .edit (.addRelation ⟨.attack, "b", "a"⟩ (some 1)), .applyStrengthText "a:0.5"]
    let s := (new {}).run ops
    let reverse := Turn.reverse.edit ⟨1⟩
    let switch := Turn.switch.edit ⟨4⟩
    ((new {}).drawnBy ops < Graph.lastNumber ∧
      (s.edit reverse).2 = .ok ⟨⟨true, true, true⟩, [.relationMoved ⟨1⟩]⟩ ∧
      (s.edit switch).2 = .ok ⟨⟨true, true, true⟩, [.relationUpdated ⟨4⟩]⟩) ∧
    ((s.edit (Turn.switch.edit ⟨1⟩)).1 = s ∧ (s.edit (Turn.reverse.edit ⟨4⟩)).1 = s) ∧
    ((s.edit reverse).1.edit reverse).1.graph = Overlay.clearResults s.graph ∧
    ((s.edit switch).1.edit switch).1.graph = Overlay.clearResults s.graph ∧
    ((s.edit switch).1.edit switch).1.description = s.graph.toText := by
  intro ops s reverse switch
  have room : (new {}).drawnBy ops < Graph.lastNumber := by decide +kernel
  have hreverse : (s.edit reverse).2 = .ok ⟨⟨true, true, true⟩, [.relationMoved ⟨1⟩]⟩ := by
    decide +kernel
  have hswitch : (s.edit switch).2 = .ok ⟨⟨true, true, true⟩, [.relationUpdated ⟨4⟩]⟩ := by
    decide +kernel
  have hrefused : (s.edit (Turn.switch.edit ⟨1⟩)).1 = s ∧
      (s.edit (Turn.reverse.edit ⟨4⟩)).1 = s := by
    decide +kernel
  obtain ⟨-, ⟨-, hgraph, -⟩, -⟩ := edit_turned_back {} ops room .reverse ⟨1⟩ _ hreverse
  obtain ⟨-, ⟨-, hgraph', htext'⟩, -⟩ := edit_turned_back {} ops room .switch ⟨4⟩ _ hswitch
  refine ⟨⟨room, hreverse, hswitch⟩, hrefused, ?_⟩
  simp only [s, reverse, switch]
  exact ⟨hgraph, hgraph', htext'⟩

end Session

end Argumentation
