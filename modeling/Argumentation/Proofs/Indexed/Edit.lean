import Argumentation.Proofs.Edit
import Argumentation.Proofs.Indexed.Run

/-!
# Edits in place

An edit of an indexed graph checks its fields and then changes the graph step by step, each step
where the one before it has left off.  Nothing is taken back, so an edit that is refused after its
first step would leave it done.  Of the edits with several steps, only the first one can be
refused: what the others need is there by then.

`follows_edit` says that an edit in place comes out as that of a graph which is edited as a whole,
and that a refused one has not touched the indexed graph.  Neither has an edit that tells no event
(`edit_silent`).
-/

namespace Argumentation

variable {G : Type} [Arena Argument Relation G]

namespace IndexedGraph

/-! ## Steps of edits -/

/-- Goes on with what a check gives. -/
def checked {α β : Type} (x : IndexedGraph G) (check : Except Error α)
    (next : α → Attempt G β) : Attempt G β :=
  match check with
  | .ok a => next a
  | .error e => ⟨x, .error e⟩

/-- Adds an argument with valid fields. -/
def insertValid (limits : Limits) (x : IndexedGraph G) (id : String) (weight : Option Binary64)
    (description : Option String) (position : Position) : Attempt G (List Event) :=
  x.checked (Edit.checkArgument limits id weight) fun _ =>
    x.checked (Edit.checkDescription limits description) fun description =>
      (x.insertArgument { id, weight, description, position }).map fun event => [event]

/-- Sets the description of an argument.  There is no event if it does not change. -/
def describe (x : IndexedGraph G) (id : String) (description : Option String) :
    IndexedGraph G × Option Event :=
  match x.argument? id with
  | none => (x, none)
  | some a =>
    if a.description = description then (x, none)
    else (x.modifyArgument id fun a => { a with description }, some (.argumentUpdated id))

/-- Gives an argument an identifier, a weight and a description, one after the other. -/
def updateArgument (limits : Limits) (x : IndexedGraph G) (id newId : String)
    (weight : Option Binary64) (description : Option String) : Attempt G (List Event) :=
  x.checked (Edit.checkArgument limits newId weight) fun _ =>
    x.checked (Edit.checkDescription limits description) fun description =>
      if canonicalId id ∉ x.index then ⟨x, .error (missingArgument (canonicalId id))⟩
      else
        (x.renameArgument id newId).andThen fun x events =>
          let weighed := x.setArgumentWeight (canonicalId newId) weight
          let described := weighed.1.describe (canonicalId newId) description
          ⟨described.1, .ok (Edit.also (events ++ weighed.2.toList) described.2)⟩

/-- Removes the relations of an argument one after the other. -/
def clearRelations (x : IndexedGraph G) (id : String) : Attempt G (List Event) :=
  if canonicalId id ∉ x.index then ⟨x, .error (missingArgument (canonicalId id))⟩
  else x.removeRelations (x.incident id)

/-- Gives a relation a kind and then a weight. -/
def updateRelation (limits : Limits) (x : IndexedGraph G) (id : RelationId) (kind : RelationKind)
    (weight : Option Binary64) : Attempt G (List Event) :=
  x.checked (Edit.checkRelation limits weight) fun _ =>
    (x.setRelationKind id kind).andThen fun x switched =>
      let weighed := x.setRelationWeight id weight
      ⟨weighed.1, .ok (Edit.also switched.toList weighed.2)⟩

/-- The graph after an edit, and the events or why it was refused. -/
def edit (limits : Limits) (x : IndexedGraph G) : Edit → Attempt G (List Event)
  | .addArgument id weight description position =>
    x.insertValid limits id weight description position
  | .editArgument id newId weight description =>
    x.updateArgument limits id newId weight description
  | .removeArgument id => x.removeArgument id
  | .clearRelations id => x.clearRelations id
  | .addRelation key weight =>
    x.checked (Edit.checkRelation limits weight) fun _ =>
      (x.insertRelation key weight).map fun id => [.relationAdded id]
  | .editRelation id kind weight => x.updateRelation limits id kind weight
  | .reverseRelation id => (x.reverseRelation id).map fun event => [event]
  | .switchRelation id =>
    match x.relation? id with
    | none => ⟨x, .error (missingRelation id)⟩
    | some r => (x.setRelationKind id r.kind.opposite).map Option.toList
  | .removeRelation id => (x.removeRelation id).map fun event => [event]

end IndexedGraph

/-! ## Steps follow those of graphs -/

namespace Attempt.Follows

variable {α β : Type} {x : IndexedGraph G} {r : Attempt G α} {change : Except Error (Graph × α)}

theorem map (follows : r.Follows x change) (f : α → β) :
    (r.map f).Follows x (change >>= fun m => .ok (m.1, f m.2)) := by
  cases follows with
  | made h rep =>
    rw [h]
    exact .made rfl rep
  | refused h =>
    rw [h]
    exact .refused rfl

/-- A step that cannot be refused follows a change. -/
theorem andThen (follows : r.Follows x change) {next : IndexedGraph G → α → Attempt G β}
    (next' : Graph × α → Graph × β)
    (hnext : ∀ (y : IndexedGraph G) (g : Graph) (a : α), y.Represents g →
      ∃ z, next y a = ⟨z, .ok (next' (g, a)).2⟩ ∧ z.Represents (next' (g, a)).1) :
    (r.andThen next).Follows x (change >>= fun m => .ok (next' m)) := by
  cases follows with
  | @made y g a h rep =>
    obtain ⟨z, hz, hrep⟩ := hnext y g a rep
    rw [h]
    exact .made hz hrep
  | refused h =>
    rw [h]
    exact .refused rfl

theorem checked {check : Except Error α} {next : α → Attempt G β}
    {next' : α → Except Error (Graph × β)} (follows : ∀ a, (next a).Follows x (next' a)) :
    (x.checked check next).Follows x (check >>= next') := by
  cases check with
  | error e => exact .refused rfl
  | ok a => exact follows a

end Attempt.Follows

namespace IndexedGraph.Represents

variable {x : IndexedGraph G} {g : Graph} (rep : x.Represents g) {limits : Limits}
include rep

variable [LawfulArena G]

theorem describe (id : String) (description : Option String) :
    (x.describe id description).1.Represents (Edit.describe g id description).1 ∧
      (x.describe id description).2 = (Edit.describe g id description).2 := by
  have hset := rep.modifyArgument id (f := fun a => { a with description }) fun _ => rfl
  unfold IndexedGraph.describe Edit.describe
  rw [rep.argument?_eq]
  cases g.argument? id with
  | none => exact ⟨rep, rfl⟩
  | some a =>
    simp only
    split
    · exact ⟨rep, rfl⟩
    · exact ⟨hset, rfl⟩

theorem follows_insertValid (id : String) (w : Option Binary64) (description : Option String)
    (position : Position) :
    (x.insertValid limits id w description position).Follows x
      (Edit.insert limits g id w description position) := by
  refine .checked fun _ => .checked fun text => ?_
  exact (rep.follows_insertArgument { id, weight := w, description := text, position }).map
    fun event => [event]

theorem follows_updateArgument (sound : g.Sound) (id newId : String) (w : Option Binary64)
    (description : Option String) :
    (x.updateArgument limits id newId w description).Follows x
      (Edit.update limits g id newId w description) := by
  refine .checked fun _ => .checked fun text => ?_
  have hcontains : canonicalId id ∈ x.index ↔ g.contains id = true := by
    rw [rep.mem_index_iff, Graph.contains_iff]
  cases hc : g.contains id with
  | false =>
    refine .refused (if_pos fun hmem => ?_)
    rw [hcontains, hc] at hmem
    cases hmem
  | true =>
    rw [if_neg (not_not_intro (hcontains.2 hc))]
    refine (rep.follows_renameArgument sound id newId).andThen
      (Edit.redescribe (canonicalId newId) w text) fun y g' events rep' => ?_
    obtain ⟨hweighed, hevent⟩ := rep'.setArgumentWeight (canonicalId newId) w
    obtain ⟨hdescribed, hevent'⟩ := hweighed.describe (canonicalId newId) text
    refine ⟨_, ?_, hdescribed⟩
    simp only [Edit.redescribe, hevent, hevent']

theorem follows_clearRelations (sound : g.Sound) (id : String) :
    (x.clearRelations id).Follows x (Edit.apply limits g (.clearRelations id)) := by
  rw [IndexedGraph.clearRelations, Edit.apply]
  cases hc : g.contains id with
  | false =>
    refine .refused (if_pos fun hmem => ?_)
    rw [rep.mem_index_iff, ← Graph.contains_iff, hc] at hmem
    cases hmem
  | true =>
    have hmem := rep.mem_index_iff.2 (Graph.contains_iff.1 hc)
    rw [if_neg (not_not_intro hmem), rep.incident_eq sound]
    have hthere : ∀ n ∈ g.incident id, ∃ r ∈ g.relations, r.id = n :=
      fun _ => Graph.exists_of_mem_incident
    have hnodup := sound.nodup_incident id
    obtain ⟨y, hy, hrep⟩ := rep.removeRelations hthere hnodup
    rw [Edit.removeAll_eq sound hthere hnodup]
    exact .made hy hrep

theorem follows_updateRelation (sound : g.Sound) (id : RelationId) (kind : RelationKind)
    (w : Option Binary64) :
    (x.updateRelation limits id kind w).Follows x (Edit.updateRelation limits g id kind w) := by
  refine .checked fun _ => ?_
  refine (rep.follows_setRelationKind sound id kind).andThen
    (fun m => ((m.1.setRelationWeight id w).1,
      Edit.also m.2.toList (m.1.setRelationWeight id w).2)) fun y g' switched rep' => ?_
  obtain ⟨hweighed, hevent⟩ := rep'.setRelationWeight id w
  exact ⟨_, by simp only [hevent], hweighed⟩

/-- An edit in place comes out as that of the represented graph, and leaves what represents the
graph that is left.  An edit that is refused has not changed anything. -/
theorem follows_edit (sound : g.Sound) (e : Edit) :
    (x.edit limits e).Follows x (e.apply limits g) := by
  cases e with
  | addArgument id w description position =>
    exact rep.follows_insertValid id w description position
  | editArgument id newId w description =>
    exact rep.follows_updateArgument sound id newId w description
  | removeArgument id => exact rep.follows_removeArgument sound id
  | clearRelations id => exact rep.follows_clearRelations sound id
  | addRelation key w =>
    refine .checked fun _ => ?_
    exact (rep.follows_insertRelation sound key w).map fun id => [Event.relationAdded id]
  | editRelation id kind w => exact rep.follows_updateRelation sound id kind w
  | reverseRelation id => exact (rep.follows_reverseRelation sound id).map fun event => [event]
  | switchRelation id =>
    rw [edit, Edit.apply, rep.relation?_eq]
    cases g.relation? id with
    | none => exact .refused rfl
    | some r => exact (rep.follows_setRelationKind sound id r.kind.opposite).map Option.toList
  | removeRelation id => exact (rep.follows_removeRelation id).map fun event => [event]

end IndexedGraph.Represents

/-! ## Edits without events -/

namespace Attempt

variable {α β : Type} {r : Attempt G α} {y : IndexedGraph G} {b : β}

theorem exists_of_map {f : α → β} (h : r.map f = ⟨y, .ok b⟩) : ∃ a, r = ⟨y, .ok a⟩ ∧ f a = b := by
  obtain ⟨x, e | a⟩ := r
  · cases h
  · cases h
    exact ⟨a, rfl, rfl⟩

theorem exists_of_andThen {next : IndexedGraph G → α → Attempt G β}
    (h : r.andThen next = ⟨y, .ok b⟩) : ∃ z a, r = ⟨z, .ok a⟩ ∧ next z a = ⟨y, .ok b⟩ := by
  obtain ⟨x, e | a⟩ := r
  · cases h
  · exact ⟨x, a, rfl, h⟩

end Attempt

namespace IndexedGraph

variable {x y : IndexedGraph G} {limits : Limits}

theorem exists_of_checked {α β : Type} {b : β} {check : Except Error α} {next : α → Attempt G β}
    (h : x.checked check next = ⟨y, .ok b⟩) : ∃ a, next a = ⟨y, .ok b⟩ := by
  cases check with
  | error e => cases h
  | ok a => exact ⟨a, h⟩

theorem setArgumentWeight_of_none {id : String} {w : Option Binary64}
    (h : (x.setArgumentWeight id w).2 = none) : (x.setArgumentWeight id w).1 = x := by
  unfold setArgumentWeight at h ⊢
  cases ha : x.argument? id with
  | none => rfl
  | some a =>
    simp only [ha] at h ⊢
    split at h
    · next heq => rw [if_pos heq]
    · cases h

theorem setRelationWeight_of_none {id : RelationId} {w : Option Binary64}
    (h : (x.setRelationWeight id w).2 = none) : (x.setRelationWeight id w).1 = x := by
  unfold setRelationWeight at h ⊢
  cases hf : x.found? id with
  | none => rfl
  | some found =>
    simp only [hf] at h ⊢
    split at h
    · next heq => rw [if_pos heq]
    · cases h

theorem describe_of_none {id : String} {description : Option String}
    (h : (x.describe id description).2 = none) : (x.describe id description).1 = x := by
  unfold describe at h ⊢
  cases ha : x.argument? id with
  | none => rfl
  | some a =>
    simp only [ha] at h ⊢
    split at h
    · next heq => rw [if_pos heq]
    · cases h

theorem setRelationKind_of_none {id : RelationId} {kind : RelationKind}
    (h : x.setRelationKind id kind = ⟨y, .ok none⟩) : y = x := by
  unfold setRelationKind at h
  cases hf : x.found? id with
  | none =>
    rw [hf] at h
    cases h
  | some found =>
    simp only [hf] at h
    split at h
    · cases h
      rfl
    · split at h
      · cases h
      · cases h

theorem renameArgument_of_nil {id newId : String} (h : x.renameArgument id newId = ⟨y, .ok []⟩) :
    y = x := by
  unfold renameArgument at h
  simp only at h
  split at h
  · cases h
    rfl
  · split at h
    · cases h
    · split at h
      · cases h
      · split at h
        · cases h
        · rw [replaceArgument] at h
          obtain ⟨z, events, -, heq⟩ := Attempt.exists_of_andThen h
          cases heq

theorem removeRelations_of_nil {ids : List RelationId} (h : x.removeRelations ids = ⟨y, .ok []⟩) :
    y = x := by
  cases ids with
  | nil =>
    cases h
    rfl
  | cons id ids =>
    rw [removeRelations] at h
    obtain ⟨z, event, -, hrest⟩ := Attempt.exists_of_andThen h
    obtain ⟨events, -, hnil⟩ := Attempt.exists_of_map hrest
    cases hnil

theorem updateArgument_of_nil {id newId : String} {w : Option Binary64}
    {description : Option String}
    (h : x.updateArgument limits id newId w description = ⟨y, .ok []⟩) : y = x := by
  obtain ⟨-, h⟩ := exists_of_checked h
  obtain ⟨text, h⟩ := exists_of_checked h
  split at h
  · cases h
  · obtain ⟨z, events, hrename, heq⟩ := Attempt.exists_of_andThen h
    simp only [Attempt.mk.injEq, Except.ok.injEq] at heq
    obtain ⟨rfl, hevents⟩ := heq
    obtain ⟨hfirst, hdescribed⟩ := Edit.also_eq_nil hevents
    obtain ⟨rfl, hweighed⟩ := List.append_eq_nil_iff.1 hfirst
    rw [describe_of_none hdescribed,
      setArgumentWeight_of_none (Option.toList_eq_nil_iff.1 hweighed)]
    exact renameArgument_of_nil hrename

theorem updateRelation_of_nil {id : RelationId} {kind : RelationKind} {w : Option Binary64}
    (h : x.updateRelation limits id kind w = ⟨y, .ok []⟩) : y = x := by
  obtain ⟨-, h⟩ := exists_of_checked h
  obtain ⟨z, switched, hkind, heq⟩ := Attempt.exists_of_andThen h
  simp only [Attempt.mk.injEq, Except.ok.injEq] at heq
  obtain ⟨rfl, hevents⟩ := heq
  obtain ⟨hswitched, hweighed⟩ := Edit.also_eq_nil hevents
  rw [Option.toList_eq_nil_iff] at hswitched
  subst hswitched
  rw [setRelationWeight_of_none hweighed]
  exact setRelationKind_of_none hkind

/-- An edit in place that tells no event has not changed anything. -/
theorem edit_silent {e : Edit} (h : x.edit limits e = ⟨y, .ok []⟩) : y = x := by
  cases e with
  | addArgument id w description position =>
    obtain ⟨-, h⟩ := exists_of_checked h
    obtain ⟨text, h⟩ := exists_of_checked h
    obtain ⟨event, -, hnil⟩ := Attempt.exists_of_map h
    cases hnil
  | editArgument id newId w description => exact updateArgument_of_nil h
  | removeArgument id =>
    rw [edit, removeArgument] at h
    split at h
    · cases h
    · obtain ⟨z, events, -, heq⟩ := Attempt.exists_of_andThen h
      simp at heq
  | clearRelations id =>
    rw [edit, clearRelations] at h
    split at h
    · cases h
    · exact removeRelations_of_nil h
  | addRelation key w =>
    obtain ⟨-, h⟩ := exists_of_checked h
    obtain ⟨event, -, hnil⟩ := Attempt.exists_of_map h
    cases hnil
  | editRelation id kind w => exact updateRelation_of_nil h
  | reverseRelation id =>
    obtain ⟨event, -, hnil⟩ := Attempt.exists_of_map h
    cases hnil
  | switchRelation id =>
    rw [edit] at h
    split at h
    · cases h
    · obtain ⟨switched, hkind, hnil⟩ := Attempt.exists_of_map h
      rw [Option.toList_eq_nil_iff] at hnil
      subst hnil
      exact setRelationKind_of_none hkind
  | removeRelation id =>
    obtain ⟨event, -, hnil⟩ := Attempt.exists_of_map h
    cases hnil

end IndexedGraph

end Argumentation
