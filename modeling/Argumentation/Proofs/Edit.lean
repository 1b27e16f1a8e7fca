import Argumentation.Edit
import Argumentation.Proofs.Graph.Run
import Argumentation.Proofs.Graph.Store

/-!
# What edits do

An edit of a sound graph is refused exactly in the cases that `Edit.Refused` lists, and
otherwise the store of the graph becomes `Edit.effect` (`Edit.apply_refused`,
`Edit.apply_accepted`).

`Edit.Done` says which operations of the graph an edit that is taken consists of, one case for
each kind of edit.  So an edit is made of elementary changes (`Edit.changes_apply`) and keeps a
sound graph sound, and an edit without events has left the graph as it was (`Edit.apply_nil`).
-/

namespace Argumentation

namespace Edit

/-! ## When edits are refused, and what they do -/

/-- Whether a field of an argument is not valid. -/
def WrongArgument (limits : Limits) (id : String) (w : Option Binary64)
    (description : Option String) : Prop :=
  validateIdentifier limits id ≠ .ok () ∨ checkWeight limits .node w ≠ .ok () ∨
    ∃ text, trimmed? description = some text ∧ validateText limits text ≠ .ok ()

/-- The key of a relation that gets another kind. -/
def rekeyed (r : Relation) (kind : RelationKind) : RelationKey := ⟨kind, r.source, r.target⟩

/-- When an edit is refused. -/
def Refused (limits : Limits) (g : Graph) : Edit → Prop
  | addArgument id w description _ =>
    WrongArgument limits id w description ∨ g.store.arguments (canonicalId id) ≠ none
  | editArgument id newId w description =>
    WrongArgument limits newId w description ∨ g.store.arguments (canonicalId id) = none ∨
      canonicalId id ≠ canonicalId newId ∧ g.store.arguments (canonicalId newId) ≠ none
  | removeArgument id => g.store.arguments (canonicalId id) = none
  | clearRelations id => g.store.arguments (canonicalId id) = none
  | addRelation key w =>
    checkWeight limits .edge w ≠ .ok () ∨ g.store.arguments (canonicalId key.source) = none ∨
      g.store.arguments (canonicalId key.target) = none ∨
      g.store.relations (Graph.canonicalKey key) ≠ none
  | editRelation id kind w =>
    checkWeight limits .edge w ≠ .ok () ∨ g.relation? id = none ∨
      ∃ r, g.relation? id = some r ∧ r.kind ≠ kind ∧ g.store.relations (rekeyed r kind) ≠ none
  | reverseRelation id =>
    g.relation? id = none ∨
      ∃ r, g.relation? id = some r ∧ r.key.reverse ≠ r.key ∧
        g.store.relations r.key.reverse ≠ none
  | switchRelation id =>
    g.relation? id = none ∨
      ∃ r, g.relation? id = some r ∧ g.store.relations (rekeyed r r.kind.opposite) ≠ none
  | removeRelation id => g.relation? id = none

/-- What is done to a relation, if it is there. -/
def onRelation (g : Graph) (id : RelationId) (f : Relation → Store) : Store :=
  match g.relation? id with
  | none => g.store
  | some r => f r

/-- The store of a graph after an edit that is not refused. -/
def effect (g : Graph) : Edit → Store
  | addArgument id w _ _ => g.store.setArgument (canonicalId id) w
  | editArgument id newId w _ =>
    (g.store.rename (canonicalId id) (canonicalId newId)).weigh (canonicalId newId) w
  | removeArgument id => g.store.eraseArgument (canonicalId id)
  | clearRelations id => g.store.eraseRelationsOf (canonicalId id)
  | addRelation key w => g.store.setRelation (Graph.canonicalKey key) w
  | editRelation id kind w => onRelation g id fun r =>
    g.store.replaceRelation r.key (rekeyed r kind) (Graph.settled r.weight w)
  | reverseRelation id => onRelation g id fun r =>
    g.store.replaceRelation r.key r.key.reverse r.weight
  | switchRelation id => onRelation g id fun r =>
    g.store.replaceRelation r.key (rekeyed r r.kind.opposite) r.weight
  | removeRelation id => onRelation g id fun r => g.store.eraseRelation r.key

/-! ## Checks -/

section Checks

variable {limits : Limits} {id : String} {w : Option Binary64} {description : Option String}

theorem checkArgument_of_ok (hid : validateIdentifier limits id = .ok ())
    (hw : checkWeight limits .node w = .ok ()) : checkArgument limits id w = .ok () := by
  simp [checkArgument, hid, hw, Except.mapError]

theorem checkDescription_of_ok
    (h : ∀ text, trimmed? description = some text → validateText limits text = .ok ()) :
    checkDescription limits description = .ok (trimmed? description) := by
  rw [checkDescription]
  cases ht : trimmed? description with
  | none => rfl
  | some text => simp [h text ht]

theorem checkRelation_of_ok (hw : checkWeight limits .edge w = .ok ()) :
    checkRelation limits w = .ok () := by
  simp [checkRelation, hw, Except.mapError]

theorem checkRelation_of_ne (hw : checkWeight limits .edge w ≠ .ok ()) :
    ∃ e, checkRelation limits w = .error e := by
  cases hc : checkWeight limits .edge w with
  | ok u => exact absurd hc hw
  | error e => exact ⟨.validation e, by simp [checkRelation, hc, Except.mapError]⟩

/-- A wrong field is found by one of the two checks. -/
theorem checks_of_wrong (h : WrongArgument limits id w description) :
    (∃ e, checkArgument limits id w = .error e) ∨
      checkArgument limits id w = .ok () ∧ ∃ e, checkDescription limits description = .error e := by
  cases hid : validateIdentifier limits id with
  | error e => exact Or.inl ⟨.validation e, by simp [checkArgument, hid]⟩
  | ok u =>
    cases hw : checkWeight limits .node w with
    | error e =>
      exact Or.inl ⟨.validation e, by simp [checkArgument, hid, hw, Except.mapError]⟩
    | ok u =>
      refine Or.inr ⟨checkArgument_of_ok hid hw, ?_⟩
      rcases h with hwrong | hwrong | ⟨text, ht, hwrong⟩
      · exact absurd hid hwrong
      · exact absurd hw hwrong
      · cases hv : validateText limits text with
        | ok u => exact absurd hv hwrong
        | error e => exact ⟨.validation e, by simp [checkDescription, ht, hv]⟩

theorem checks_of_not_wrong (h : ¬ WrongArgument limits id w description) :
    checkArgument limits id w = .ok () ∧
      checkDescription limits description = .ok (trimmed? description) := by
  simp only [WrongArgument, not_or, not_not, not_exists, not_and] at h
  exact ⟨checkArgument_of_ok h.1 h.2.1, checkDescription_of_ok h.2.2⟩

end Checks

/-- To describe an argument changes nothing but its description, if anything. -/
theorem describe_cases (g : Graph) (id : String) (description : Option String) :
    describe g id description = (g, none) ∨ ∃ a, g.argument? id = some a ∧
      describe g id description = (g.modifyArgument id fun a => { a with description },
        some (.argumentUpdated id)) := by
  unfold describe
  cases g.argument? id with
  | none => exact Or.inl rfl
  | some a =>
    dsimp only
    split
    · exact Or.inl rfl
    · exact Or.inr ⟨a, rfl, rfl⟩

/-! ## Steps that can be refused -/

theorem ok_bind {α β : Type} (a : α) (f : α → Except Error β) : (Except.ok a >>= f) = f a := rfl

theorem error_bind {α β : Type} (e : Error) (f : α → Except Error β) :
    (Except.error e >>= f) = .error e := rfl

theorem exists_of_bind {α β : Type} {x : Except Error α} {f : α → Except Error β} {b : β}
    (h : (x >>= f) = .ok b) : ∃ a, x = .ok a ∧ f a = .ok b := by
  cases x with
  | error e => cases h
  | ok a => exact ⟨a, rfl, h⟩

/-! ## Refused edits -/

section Fields

variable {limits : Limits} {g : Graph} {id newId : String} {w : Option Binary64}
  {description : Option String} {position : Position}

theorem insert_of_wrong (h : WrongArgument limits id w description) :
    ∃ e, insert limits g id w description position = .error e := by
  rcases checks_of_wrong h with ⟨e, he⟩ | ⟨hok, e, he⟩
  · exact ⟨e, by rw [insert, he, error_bind]⟩
  · exact ⟨e, by rw [insert, hok, ok_bind, he, error_bind]⟩

theorem insert_of_not_wrong (h : ¬ WrongArgument limits id w description) :
    insert limits g id w description position =
      (g.insertArgument { id, weight := w, description := trimmed? description, position }).map
        fun r => (r.1, [r.2]) := by
  obtain ⟨hc, hd⟩ := checks_of_not_wrong h
  rw [insert, hc, ok_bind, hd, ok_bind]
  cases g.insertArgument { id, weight := w, description := trimmed? description, position } <;> rfl

theorem update_of_wrong (h : WrongArgument limits newId w description) :
    ∃ e, update limits g id newId w description = .error e := by
  rcases checks_of_wrong h with ⟨e, he⟩ | ⟨hok, e, he⟩
  · exact ⟨e, by rw [update, he, error_bind]⟩
  · exact ⟨e, by rw [update, hok, ok_bind, he, error_bind]⟩

/-- What is done to an argument that has its new identifier. -/
def redescribe (id : String) (w : Option Binary64) (description : Option String)
    (r : Graph × List Event) : Graph × List Event :=
  let (g, weighed) := r.1.setArgumentWeight id w
  let (g, described) := describe g id description
  (g, also (r.2 ++ weighed.toList) described)

theorem update_of_not_wrong (h : ¬ WrongArgument limits newId w description) :
    update limits g id newId w description =
      if g.contains id then
        (g.renameArgument id newId).map
          (redescribe (canonicalId newId) w (trimmed? description))
      else .error (missingArgument (canonicalId id)) := by
  obtain ⟨hc, hd⟩ := checks_of_not_wrong h
  rw [update, hc, ok_bind, hd, ok_bind]
  cases g.contains id with
  | false => rfl
  | true =>
    cases g.renameArgument id newId with
    | error e => rfl
    | ok r => rfl

end Fields

section

variable {limits : Limits} {g g' : Graph} (sound : g.Sound)
include sound

theorem contains_iff_store {id : String} :
    g.contains id = true ↔ g.store.arguments (canonicalId id) ≠ none := by
  rw [Graph.contains_iff, ne_eq, sound.store_arguments_eq_none_iff, not_not]

theorem contains_eq_false_iff_store {id : String} :
    g.contains id = false ↔ g.store.arguments (canonicalId id) = none := by
  rw [← Bool.not_eq_true, contains_iff_store sound, not_not]

/-- There is no second argument with the identifier of one that is there. -/
theorem insert_refused {id : String} {w : Option Binary64} {description : Option String}
    {position : Position} (h : (addArgument id w description position).Refused limits g) :
    ∃ err, insert limits g id w description position = .error err := by
  cases Classical.em (WrongArgument limits id w description) with
  | inl hwrong => exact insert_of_wrong hwrong
  | inr hright =>
    have hmem := h.resolve_left hright
    rw [← contains_iff_store sound, Graph.contains_iff] at hmem
    have hinsert := Graph.insertArgument_of_mem
      (a := ⟨id, w, trimmed? description, position, none, .plain⟩) hmem
    rw [insert_of_not_wrong hright, hinsert]
    exact ⟨_, rfl⟩

/-- An argument has to be there, and does not get the identifier of another one. -/
theorem update_refused {id newId : String} {w : Option Binary64} {description : Option String}
    (h : (editArgument id newId w description).Refused limits g) :
    ∃ err, update limits g id newId w description = .error err := by
  cases Classical.em (WrongArgument limits newId w description) with
  | inl hwrong => exact update_of_wrong hwrong
  | inr hright =>
    rw [update_of_not_wrong hright]
    cases hold : g.contains id with
    | false => exact ⟨_, rfl⟩
    | true =>
      rw [contains_iff_store sound] at hold
      obtain ⟨hne, hmem⟩ := (h.resolve_left hright).resolve_left hold
      rw [← contains_iff_store sound, Graph.contains_iff] at hmem
      rw [Graph.renameArgument_of_mem hne hmem]
      exact ⟨_, rfl⟩

/-- A relation is not added twice, and both its ends have to be there. -/
theorem addRelation_refused {key : RelationKey} {w : Option Binary64}
    (h : (addRelation key w).Refused limits g) :
    ∃ err, (addRelation key w).apply limits g = .error err := by
  by_cases hw : checkWeight limits .edge w = .ok ()
  · have hrefused := h.resolve_left (not_not_intro hw)
    rw [sound.store_arguments_eq_none_iff, sound.store_arguments_eq_none_iff, ne_eq,
      Graph.store_relations_eq_none_iff, not_not] at hrefused
    rw [apply, checkRelation_of_ok hw, ok_bind]
    rcases Graph.insertRelation_cases g key w with ⟨e, he, -⟩ | ⟨-, hs, ht, hk⟩
    · exact ⟨e, by rw [he, error_bind]⟩
    · simp [hs, ht, hk] at hrefused
  · obtain ⟨e, he⟩ := checkRelation_of_ne hw
    exact ⟨e, by rw [apply, he, error_bind]⟩

omit sound in
/-- A relation has to be there, and does not become one that is there already. -/
theorem updateRelation_refused {id : RelationId} {kind : RelationKind} {w : Option Binary64}
    (h : (editRelation id kind w).Refused limits g) :
    ∃ err, updateRelation limits g id kind w = .error err := by
  by_cases hw : checkWeight limits .edge w = .ok ()
  · rw [updateRelation, checkRelation_of_ok hw, ok_bind]
    rcases h.resolve_left (not_not_intro hw) with hnone | ⟨r, hr, hne, hk⟩
    · rw [Graph.setRelationKind_of_none hnone]
      exact ⟨_, rfl⟩
    · rw [ne_eq, Graph.store_relations_eq_none_iff, not_not] at hk
      rw [Graph.setRelationKind_of_mem hr hne hk]
      exact ⟨_, rfl⟩
  · obtain ⟨e, he⟩ := checkRelation_of_ne hw
    exact ⟨e, by rw [updateRelation, he, error_bind]⟩

/-- A relation is not turned into another one that is there. -/
theorem reverseRelation_refused {id : RelationId} (h : (reverseRelation id).Refused limits g) :
    ∃ err, (reverseRelation id).apply limits g = .error err := by
  rcases h with hnone | ⟨r, hr, hne, hk⟩
  · rw [apply, Graph.reverseRelation_of_none hnone]
    exact ⟨_, rfl⟩
  · rw [ne_eq, Graph.store_relations_eq_none_iff, not_not] at hk
    obtain ⟨q, hq, hkey⟩ := List.mem_map.1 hk
    obtain ⟨hmem, hid⟩ := Graph.mem_of_relation? hr
    have hother := sound.findRelation?_eq_some_iff.2 ⟨q, hq, hkey, rfl⟩
    have hqid : q.id ≠ id := by
      intro heq
      rw [sound.eq_of_id_eq hq hmem (heq.trans hid.symm)] at hkey
      exact hne hkey.symm
    rw [apply, Graph.reverseRelation_of_taken hr hother hqid]
    exact ⟨_, rfl⟩

omit sound in
theorem switchRelation_refused {id : RelationId} (h : (switchRelation id).Refused limits g) :
    ∃ err, (switchRelation id).apply limits g = .error err := by
  rcases h with hnone | ⟨r, hr, hk⟩
  · rw [apply, hnone]
    exact ⟨_, rfl⟩
  · rw [ne_eq, Graph.store_relations_eq_none_iff, not_not] at hk
    have hne : r.kind ≠ r.kind.opposite := (RelationKind.opposite_ne r.kind).symm
    simp only [apply, hr, Graph.setRelationKind_of_mem hr hne hk]
    exact ⟨_, rfl⟩

/-- An edit is refused in each of the listed cases. -/
theorem apply_refused {e : Edit} (h : e.Refused limits g) :
    ∃ err, e.apply limits g = .error err := by
  cases e with
  | addArgument id w description position => exact insert_refused sound h
  | editArgument id newId w description => exact update_refused sound h
  | removeArgument id =>
    rw [Refused, sound.store_arguments_eq_none_iff] at h
    exact ⟨_, Graph.removeArgument_of_not_mem h⟩
  | clearRelations id =>
    rw [Refused, ← contains_eq_false_iff_store sound] at h
    rw [apply, h]
    exact ⟨_, rfl⟩
  | addRelation key w => exact addRelation_refused sound h
  | editRelation id kind w => exact updateRelation_refused h
  | reverseRelation id => exact reverseRelation_refused sound h
  | switchRelation id => exact switchRelation_refused h
  | removeRelation id =>
    rw [apply, Graph.removeRelation_of_none h]
    exact ⟨_, rfl⟩

/-! ## Accepted edits -/

/-- Relations that are there go one after the other. -/
theorem removeAll_eq {ids : List RelationId} (hmem : ∀ id ∈ ids, ∃ r ∈ g.relations, r.id = id)
    (hnodup : ids.Nodup) :
    removeAll g ids =
      .ok ({ g with relations := g.relations.filter (·.id ∉ ids) }, ids.map .relationRemoved) := by
  induction ids generalizing g with
  | nil => simp [removeAll]
  | cons id ids ih =>
    rw [List.nodup_cons] at hnodup
    obtain ⟨r, hr, hid⟩ := hmem id (by simp)
    have hrest : ∀ id' ∈ ids, ∃ q ∈ g.relations.filter (·.id ≠ id), q.id = id' := by
      intro id' hid'
      obtain ⟨q, hq, heq⟩ := hmem id' (by simp [hid'])
      refine ⟨q, List.mem_filter.2 ⟨hq, ?_⟩, heq⟩
      rw [decide_eq_true_eq, heq]
      exact fun h => hnodup.1 (h ▸ hid')
    have hremaining : (g.relations.filter (·.id ≠ id)).filter (·.id ∉ ids) =
        g.relations.filter (·.id ∉ id :: ids) := by
      rw [List.filter_filter]
      exact List.filter_congr fun q _ => by simp [Bool.and_comm]
    rw [removeAll, Graph.removeRelation_of_some (sound.relation?_eq_some_iff.2 ⟨hr, hid⟩),
      ok_bind]
    simp only
    rw [ih (sound.filter_relations _) hrest hnodup.2, ok_bind]
    simp only [hremaining]
    rfl

/-- The relations of an argument are those that touch it. -/
theorem removeAll_incident (id : String) :
    removeAll g (g.incident id) =
      .ok ({ g with relations := g.relations.filter (!Graph.touches (canonicalId id) ·) },
        (g.incident id).map .relationRemoved) := by
  rw [removeAll_eq sound (fun _ => Graph.exists_of_mem_incident) (sound.nodup_incident id),
    sound.filter_not_mem_incident]

theorem exists_renameArgument {id newId : String} (hmem : canonicalId id ∈ g.keys)
    (hfree : canonicalId id ≠ canonicalId newId → canonicalId newId ∉ g.keys) :
    ∃ g' es, g.renameArgument id newId = .ok (g', es) ∧ g'.Sound ∧
      g'.store = g.store.rename (canonicalId id) (canonicalId newId) := by
  cases decEq (canonicalId id) (canonicalId newId) with
  | isTrue heq =>
    refine ⟨g, [], Graph.renameArgument_of_eq heq, sound, ?_⟩
    rw [heq, Store.rename_self]
  | isFalse hne =>
    obtain ⟨n, hn, hnmem, hkey⟩ := Graph.exists_node_of_mem hmem
    have hrename := Graph.renameArgument_of_ne hne (hfree hne) hn
    refine ⟨_, _, hrename, (sound.of_renameArgument hrename).1, ?_⟩
    rw [← hkey]
    exact sound.store_renamed hnmem (isCanonical_canonicalId newId) (hfree hne)

/-- A relation gets a kind, which it may have already. -/
theorem exists_setRelationKind {id : RelationId} {r : Relation} (hr : g.relation? id = some r)
    {kind : RelationKind} (hfree : r.kind ≠ kind → rekeyed r kind ∉ g.relationKeys) :
    ∃ g' event, g.setRelationKind id kind = .ok (g', event) ∧ g'.Sound ∧
      g'.store = g.store.replaceRelation r.key (rekeyed r kind) r.weight ∧
      { r with kind } ∈ g'.relations := by
  obtain ⟨hmem, hid⟩ := Graph.mem_of_relation? hr
  cases decEq r.kind kind with
  | isTrue heq =>
    refine ⟨g, none, Graph.setRelationKind_of_eq hr heq, sound, ?_, ?_⟩
    · rw [← heq]
      exact (Store.replaceRelation_self (sound.store_relations_of_mem hmem)).symm
    · rw [← heq]
      exact hmem
  | isFalse hne =>
    have hset := Graph.setRelationKind_of_not_mem hr hne (hfree hne)
    refine ⟨_, _, hset, (sound.of_setRelationKind hset).1, ?_, ?_⟩
    · subst hid
      refine sound.store_modifyRelation hmem (f := fun r => { r with kind }) fun q hq heq => ?_
      exact absurd (List.mem_map.2 ⟨q, hq, heq⟩) (hfree hne)
    · refine List.mem_map.2 ⟨r, hmem, ?_⟩
      rw [if_pos hid]

omit sound in
theorem store_describe (h : Graph) (id : String) (description : Option String) :
    (describe h id description).1.store = h.store := by
  rcases describe_cases h id description with heq | ⟨a, -, heq⟩
  · rw [heq]
  · rw [heq]
    exact Graph.store_of_content (Graph.content_modifyArgument h id
      (f := fun a => { a with description }) (fun _ => rfl) fun _ => rfl)

omit sound in
theorem store_redescribe {id : String} (hid : IsCanonical id) (w : Option Binary64)
    (description : Option String) {r : Graph × List Event} (hsound : r.1.Sound) :
    (redescribe id w description r).1.store = r.1.store.weigh id w := by
  rw [redescribe]
  simp only
  rw [store_describe, hsound.store_setArgumentWeight hid]

theorem insert_accepted {id : String} {w : Option Binary64} {description : Option String}
    {position : Position} (h : ¬ (addArgument id w description position).Refused limits g) :
    ∃ g' es, insert limits g id w description position = .ok (g', es) ∧
      g'.store = g.store.setArgument (canonicalId id) w := by
  obtain ⟨hright, hfree⟩ := not_or.1 h
  rw [not_not, sound.store_arguments_eq_none_iff] at hfree
  have hinsert := Graph.insertArgument_of_not_mem
    (a := ⟨id, w, trimmed? description, position, none, .plain⟩) hfree
  rw [insert_of_not_wrong hright, hinsert]
  exact ⟨_, _, rfl, sound.store_append_node rfl hfree⟩

theorem update_accepted {id newId : String} {w : Option Binary64} {description : Option String}
    (h : ¬ (editArgument id newId w description).Refused limits g) :
    ∃ g' es, update limits g id newId w description = .ok (g', es) ∧
      g'.store =
        (g.store.rename (canonicalId id) (canonicalId newId)).weigh (canonicalId newId) w := by
  simp only [Refused, not_or, not_and, not_not] at h
  obtain ⟨hright, hmem, hfree⟩ := h
  have hcontains := (contains_iff_store sound).2 hmem
  have hnew : canonicalId id ≠ canonicalId newId → canonicalId newId ∉ g.keys :=
    fun hne => sound.store_arguments_eq_none_iff.1 (hfree hne)
  obtain ⟨k, es, hrename, hsound, hstore⟩ :=
    exists_renameArgument sound (Graph.contains_iff.1 hcontains) hnew
  have hok : update limits g id newId w description =
      .ok (redescribe (canonicalId newId) w (trimmed? description) (k, es)) := by
    rw [update_of_not_wrong hright, if_pos hcontains, hrename]
    rfl
  refine ⟨(redescribe (canonicalId newId) w (trimmed? description) (k, es)).1, _, hok, ?_⟩
  rw [store_redescribe (isCanonical_canonicalId newId) w _ (r := (k, es)) hsound, hstore]

theorem addRelation_accepted {key : RelationKey} {w : Option Binary64}
    (h : ¬ (addRelation key w).Refused limits g) :
    ∃ g' es, (addRelation key w).apply limits g = .ok (g', es) ∧
      g'.store = g.store.setRelation (Graph.canonicalKey key) w := by
  simp only [Refused, not_or, not_not] at h
  obtain ⟨hw, hs, ht, hk⟩ := h
  rw [← ne_eq, ← contains_iff_store sound, Graph.contains_iff] at hs ht
  rw [Graph.store_relations_eq_none_iff] at hk
  rw [apply, checkRelation_of_ok hw, ok_bind, Graph.insertRelation_of_not_mem hs ht hk, ok_bind]
  exact ⟨_, _, rfl, Graph.store_withRelation hk w⟩

theorem updateRelation_accepted {id : RelationId} {kind : RelationKind} {w : Option Binary64}
    (h : ¬ (editRelation id kind w).Refused limits g) :
    ∃ g' es, updateRelation limits g id kind w = .ok (g', es) ∧
      g'.store = (editRelation id kind w).effect g := by
  simp only [Refused, not_or, not_not, not_exists, not_and] at h
  obtain ⟨hw, hsome, hfree⟩ := h
  obtain ⟨r, hr⟩ := Option.ne_none_iff_exists'.1 hsome
  obtain ⟨k, event, hset, hsound, hstore, hmem⟩ := exists_setRelationKind sound hr
    fun hne => Graph.store_relations_eq_none_iff.1 (hfree r hr hne)
  have hid : r.id = id := (Graph.mem_of_relation? hr).2
  have hweighed : (k.setRelationWeight id w).1.store = k.store.replaceRelation
      (rekeyed r kind) (rekeyed r kind) (Graph.settled r.weight w) := by
    rw [← hid]
    exact hsound.store_setRelationWeight hmem w
  rw [updateRelation, checkRelation_of_ok hw, ok_bind, hset, ok_bind]
  refine ⟨(k.setRelationWeight id w).1, _, rfl, ?_⟩
  simp only [effect, onRelation, hr]
  rw [hweighed, hstore, Store.replaceRelation_replaceRelation]

theorem reverseRelation_accepted {id : RelationId} (h : ¬ (reverseRelation id).Refused limits g) :
    ∃ g' es, (reverseRelation id).apply limits g = .ok (g', es) ∧
      g'.store = (reverseRelation id).effect g := by
  simp only [Refused, not_or, not_exists, not_and, not_not] at h
  obtain ⟨r, hr⟩ := Option.ne_none_iff_exists'.1 h.1
  obtain ⟨hmem, rfl⟩ := Graph.mem_of_relation? hr
  have hfree : ∀ q ∈ g.relations, q.key = r.key.reverse → q = r := by
    intro q hq heq
    cases decEq r.key.reverse r.key with
    | isTrue hself => exact sound.eq_of_key_eq hq hmem (heq.trans hself)
    | isFalse hne =>
      have hnone := h.2 r hr hne
      rw [Graph.store_relations_eq_none_iff] at hnone
      exact absurd (heq ▸ List.mem_map_of_mem hq) hnone
  have hreverse := Graph.reverseRelation_of_free hr fun other hother => by
    obtain ⟨q, hq, hkey, hid⟩ := Graph.exists_of_findRelation? hother
    rw [← hid, hfree q hq hkey]
  rw [apply, hreverse, ok_bind]
  refine ⟨_, _, rfl, ?_⟩
  simp only [effect, onRelation, hr]
  exact sound.store_modifyRelation hmem (f := Graph.turned) hfree

theorem switchRelation_accepted {id : RelationId} (h : ¬ (switchRelation id).Refused limits g) :
    ∃ g' es, (switchRelation id).apply limits g = .ok (g', es) ∧
      g'.store = (switchRelation id).effect g := by
  simp only [Refused, not_or, not_exists, not_and, not_not] at h
  obtain ⟨r, hr⟩ := Option.ne_none_iff_exists'.1 h.1
  have hfree : r.kind ≠ r.kind.opposite → rekeyed r r.kind.opposite ∉ g.relationKeys :=
    fun _ => Graph.store_relations_eq_none_iff.1 (h.2 r hr)
  obtain ⟨k, event, hset, -, hstore, -⟩ := exists_setRelationKind sound hr hfree
  simp only [apply, hr, hset, effect, onRelation]
  exact ⟨_, _, rfl, hstore⟩

/-- An edit that is not refused does what it says. -/
theorem apply_accepted {e : Edit} (h : ¬ e.Refused limits g) :
    ∃ g' es, e.apply limits g = .ok (g', es) ∧ g'.store = e.effect g := by
  cases e with
  | addArgument id w description position => exact insert_accepted sound h
  | editArgument id newId w description => exact update_accepted sound h
  | removeArgument id =>
    rw [Refused, sound.store_arguments_eq_none_iff, not_not] at h
    exact ⟨_, _, Graph.removeArgument_of_mem h, sound.store_without _⟩
  | clearRelations id =>
    rw [Refused, ← ne_eq, ← contains_iff_store sound] at h
    rw [apply, h, removeAll_incident sound]
    exact ⟨_, _, rfl, Graph.store_filter_touches (canonicalId id)⟩
  | addRelation key w => exact addRelation_accepted sound h
  | editRelation id kind w => exact updateRelation_accepted sound h
  | reverseRelation id => exact reverseRelation_accepted sound h
  | switchRelation id => exact switchRelation_accepted sound h
  | removeRelation id =>
    obtain ⟨r, hr⟩ := Option.ne_none_iff_exists'.1 h
    obtain ⟨hmem, rfl⟩ := Graph.mem_of_relation? hr
    rw [apply, Graph.removeRelation_of_some hr, ok_bind]
    refine ⟨_, _, rfl, ?_⟩
    rw [effect, onRelation, hr]
    exact sound.store_filter_id hmem

end

/-! ## How edits are carried out -/

/-- The operations of a graph that an edit consists of, with the checks that come before them.
This says all that an edit can do, so proofs about edits that are taken go by its cases. -/
inductive Done (limits : Limits) (g : Graph) : Edit → Graph → List Event → Prop where
  /-- An argument is checked and inserted. -/
  | addArgument {id : String} {w : Option Binary64} {description text : Option String}
    {position : Position} {g' : Graph} {e : Event}
    (hcheck : checkArgument limits id w = .ok ())
    (htext : checkDescription limits description = .ok text)
    (hinsert : g.insertArgument { id, weight := w, description := text, position } =
      .ok (g', e)) :
    Done limits g (addArgument id w description position) g' [e]
  /-- An argument is renamed, and then gets its weight and its description. -/
  | editArgument {id newId : String} {w : Option Binary64} {description text : Option String}
    {k : Graph} {es : List Event}
    (hcheck : checkArgument limits newId w = .ok ())
    (htext : checkDescription limits description = .ok text)
    (hrename : g.renameArgument id newId = .ok (k, es)) :
    Done limits g (editArgument id newId w description)
      (redescribe (canonicalId newId) w text (k, es)).1
      (redescribe (canonicalId newId) w text (k, es)).2
  /-- An argument goes with its relations. -/
  | removeArgument {id : String} {g' : Graph} {es : List Event}
    (hremove : g.removeArgument id = .ok (g', es)) : Done limits g (removeArgument id) g' es
  /-- The relations of an argument go one after the other. -/
  | clearRelations {id : String} {g' : Graph} {es : List Event}
    (hremove : removeAll g (g.incident id) = .ok (g', es)) :
    Done limits g (clearRelations id) g' es
  /-- A relation is checked and inserted. -/
  | addRelation {key : RelationKey} {w : Option Binary64} {g' : Graph} {id : RelationId}
    (hcheck : checkRelation limits w = .ok ())
    (hinsert : g.insertRelation key w = .ok (g', id)) :
    Done limits g (addRelation key w) g' [.relationAdded id]
  /-- A relation gets its kind, and then its weight. -/
  | editRelation {id : RelationId} {kind : RelationKind} {w : Option Binary64} {k : Graph}
    {e : Option Event} (hcheck : checkRelation limits w = .ok ())
    (hkind : g.setRelationKind id kind = .ok (k, e)) :
    Done limits g (editRelation id kind w) (k.setRelationWeight id w).1
      (also e.toList (k.setRelationWeight id w).2)
  /-- A relation is turned round. -/
  | reverseRelation {id : RelationId} {g' : Graph} {e : Event}
    (hreverse : g.reverseRelation id = .ok (g', e)) : Done limits g (reverseRelation id) g' [e]
  /-- A relation gets the opposite of its kind. -/
  | switchRelation {id : RelationId} {r : Relation} {g' : Graph} {e : Option Event}
    (hr : g.relation? id = some r)
    (hkind : g.setRelationKind id r.kind.opposite = .ok (g', e)) :
    Done limits g (switchRelation id) g' e.toList
  /-- A relation goes. -/
  | removeRelation {id : RelationId} {g' : Graph} {e : Event}
    (hremove : g.removeRelation id = .ok (g', e)) : Done limits g (removeRelation id) g' [e]

theorem done_of_apply {limits : Limits} {g g' : Graph} {e : Edit} {es : List Event}
    (h : e.apply limits g = .ok (g', es)) : Done limits g e g' es := by
  cases e with
  | addArgument id w description position =>
    rw [apply, insert] at h
    obtain ⟨u, hcheck, h⟩ := exists_of_bind h
    obtain ⟨text, htext, h⟩ := exists_of_bind h
    obtain ⟨⟨k, e⟩, hinsert, heq⟩ := exists_of_bind h
    cases heq
    exact .addArgument hcheck htext hinsert
  | editArgument id newId w description =>
    rw [apply, update] at h
    obtain ⟨u, hcheck, h⟩ := exists_of_bind h
    obtain ⟨text, htext, h⟩ := exists_of_bind h
    split at h
    · cases h
    · obtain ⟨⟨k, ds⟩, hrename, heq⟩ := exists_of_bind h
      cases heq
      exact .editArgument hcheck htext hrename
  | removeArgument id => exact .removeArgument h
  | clearRelations id =>
    rw [apply] at h
    split at h
    · cases h
    · exact .clearRelations h
  | addRelation key w =>
    obtain ⟨u, hcheck, h⟩ := exists_of_bind h
    obtain ⟨⟨k, id⟩, hinsert, heq⟩ := exists_of_bind h
    cases heq
    exact .addRelation hcheck hinsert
  | editRelation id kind w =>
    rw [apply, updateRelation] at h
    obtain ⟨u, hcheck, h⟩ := exists_of_bind h
    obtain ⟨⟨k, e⟩, hkind, heq⟩ := exists_of_bind h
    cases heq
    exact .editRelation hcheck hkind
  | reverseRelation id =>
    obtain ⟨⟨k, e⟩, hreverse, heq⟩ := exists_of_bind h
    cases heq
    exact .reverseRelation hreverse
  | switchRelation id =>
    rw [apply] at h
    cases hr : g.relation? id with
    | none =>
      rw [hr] at h
      cases h
    | some r =>
      rw [hr] at h
      obtain ⟨⟨k, e⟩, hkind, heq⟩ := exists_of_bind h
      cases heq
      exact .switchRelation hr hkind
  | removeRelation id =>
    obtain ⟨⟨k, e⟩, hremove, heq⟩ := exists_of_bind h
    cases heq
    exact .removeRelation hremove

/-! ## Edits as elementary changes -/

section

variable {limits : Limits} {g g' : Graph}

open Argumentation.Graph (Change Changes)

/-- To describe an argument is at most one change, and no relation comes with it. -/
theorem changes_describe (g : Graph) (id : String) (description : Option String) :
    ∃ ds, Changes g ds (describe g id description).1 ∧ relationsAdded ds = 0 := by
  rcases describe_cases g id description with heq | ⟨a, -, heq⟩
  · rw [heq]
    exact ⟨[], .refl g, rfl⟩
  · have change : Change g [] (g.modifyArgument id fun a => { a with description }) :=
      .modifyArgument g id [] fun _ => rfl
    rw [heq]
    exact ⟨[], .single change, rfl⟩

theorem relationsAdded_describe (g : Graph) (id : String) (description : Option String) :
    ∀ d ∈ (describe g id description).2, d.isRelationAdded = false := by
  rcases describe_cases g id description with heq | ⟨a, -, heq⟩
  · simp [heq]
  · simp [heq, Event.isRelationAdded]

theorem relationsAdded_setRelationWeight (g : Graph) (id : RelationId) (w : Option Binary64) :
    ∀ d ∈ (g.setRelationWeight id w).2, d.isRelationAdded = false := by
  rcases Graph.setRelationWeight_cases g id w with heq | ⟨r, -, heq⟩
  · simp [heq]
  · simp [heq, Event.isRelationAdded]

theorem relationsAdded_also (es : List Event) {e : Option Event}
    (h : ∀ d ∈ e, d.isRelationAdded = false) :
    relationsAdded (also es e) = relationsAdded es := by
  cases e with
  | none => rfl
  | some d =>
    rw [also]
    split
    · rfl
    · rw [relationsAdded_append]
      simp [relationsAdded, h d rfl]

theorem relationsAdded_toList {e : Option Event} (h : ∀ d ∈ e, d.isRelationAdded = false) :
    relationsAdded e.toList = 0 := by
  cases e with
  | none => rfl
  | some d => simp [relationsAdded, h d rfl]

theorem changes_redescribe (id : String) (w : Option Binary64) (description : Option String)
    (r : Graph × List Event) :
    ∃ fs, Changes r.1 fs (redescribe id w description r).1 ∧
      relationsAdded (redescribe id w description r).2 =
        relationsAdded r.2 + relationsAdded fs := by
  obtain ⟨fs, hfs, hnone⟩ := changes_describe (r.1.setArgumentWeight id w).1 id description
  refine ⟨_, .step (.setArgumentWeight r.1 id w) hfs, ?_⟩
  rw [redescribe]
  simp only
  rw [relationsAdded_also _ (relationsAdded_describe _ _ _), relationsAdded_append,
    relationsAdded_append, hnone, Nat.add_zero]

theorem changes_removeAll {ids : List RelationId} {es : List Event}
    (h : removeAll g ids = .ok (g', es)) : Changes g es g' := by
  induction ids generalizing g es with
  | nil =>
    cases h
    exact .refl _
  | cons id ids ih =>
    obtain ⟨⟨k, e⟩, hk, hrest⟩ := exists_of_bind h
    obtain ⟨⟨m, ds⟩, hm, heq⟩ := exists_of_bind hrest
    cases heq
    exact .step (.removeRelation hk) (ih hm)

/-- An edit is made of elementary changes, and brings as many relations as its events tell. -/
theorem changes_apply {e : Edit} {es : List Event} (h : e.apply limits g = .ok (g', es)) :
    ∃ ds, Changes g ds g' ∧ relationsAdded ds = relationsAdded es := by
  cases done_of_apply h with
  | addArgument _ _ hinsert => exact ⟨_, .single (.insertArgument hinsert), rfl⟩
  | @editArgument id newId w _ text k es _ _ hrename =>
    obtain ⟨fs, changes, hadded⟩ := changes_redescribe (canonicalId newId) w text (k, es)
    refine ⟨_, .step (.renameArgument hrename) changes, ?_⟩
    rw [relationsAdded_append, hadded]
  | removeArgument hremove => exact ⟨_, .single (.removeArgument hremove), rfl⟩
  | clearRelations hremove => exact ⟨_, changes_removeAll hremove, rfl⟩
  | addRelation _ hinsert => exact ⟨_, .single (.insertRelation hinsert), rfl⟩
  | @editRelation id kind w k e _ hkind =>
    have hnone := relationsAdded_setRelationWeight k id w
    refine ⟨_, .step (.setRelationKind hkind) (.single (.setRelationWeight k id w)), ?_⟩
    rw [relationsAdded_also _ hnone, relationsAdded_append, relationsAdded_toList hnone]
    rfl
  | reverseRelation hreverse => exact ⟨_, .single (.reverseRelation hreverse), rfl⟩
  | switchRelation _ hkind => exact ⟨_, .single (.setRelationKind hkind), rfl⟩
  | removeRelation hremove => exact ⟨_, .single (.removeRelation hremove), rfl⟩

/-! ## Edits without events -/

theorem also_eq_nil {es : List Event} {e : Option Event} (h : also es e = []) :
    es = [] ∧ e = none := by
  cases e with
  | none => exact ⟨h, rfl⟩
  | some d =>
    rw [also] at h
    split at h
    · next hmem => simp [h] at hmem
    · simp at h

theorem setArgumentWeight_of_none {id : String} {w : Option Binary64}
    (h : (g.setArgumentWeight id w).2 = none) : (g.setArgumentWeight id w).1 = g := by
  rcases Graph.setArgumentWeight_cases g id w with heq | ⟨a, heq⟩
  · rw [heq]
  · rw [heq] at h
    cases h

theorem setRelationWeight_of_none {id : RelationId} {w : Option Binary64}
    (h : (g.setRelationWeight id w).2 = none) : (g.setRelationWeight id w).1 = g := by
  rcases Graph.setRelationWeight_cases g id w with heq | ⟨r, -, heq⟩
  · rw [heq]
  · rw [heq] at h
    cases h

theorem describe_of_none {id : String} {description : Option String}
    (h : (describe g id description).2 = none) : (describe g id description).1 = g := by
  rcases describe_cases g id description with heq | ⟨a, -, heq⟩
  · rw [heq]
  · rw [heq] at h
    cases h

theorem setRelationKind_of_none {id : RelationId} {kind : RelationKind}
    (h : g.setRelationKind id kind = .ok (g', none)) : g' = g := by
  obtain ⟨r, -, ⟨-, hsame, -⟩ | ⟨-, -, -, hevent⟩⟩ := Graph.setRelationKind_inv h
  · exact hsame
  · cases hevent

theorem renameArgument_of_nil {id newId : String} (h : g.renameArgument id newId = .ok (g', [])) :
    g' = g := by
  rcases Graph.renameArgument_inv h with ⟨-, hsame, -⟩ | ⟨n, -, -, -, -, hevents⟩
  · exact hsame
  · cases hevents

theorem redescribe_nil {id : String} {w : Option Binary64} {description : Option String}
    {r : Graph × List Event} (h : (redescribe id w description r).2 = []) :
    r.2 = [] ∧ (redescribe id w description r).1 = r.1 := by
  have hevents : also (r.2 ++ (r.1.setArgumentWeight id w).2.toList)
      (describe (r.1.setArgumentWeight id w).1 id description).2 = [] := h
  obtain ⟨hfirst, hdescribed⟩ := also_eq_nil hevents
  obtain ⟨hnil, hweighed⟩ := List.append_eq_nil_iff.1 hfirst
  refine ⟨hnil, ?_⟩
  calc (describe (r.1.setArgumentWeight id w).1 id description).1
      = (r.1.setArgumentWeight id w).1 := describe_of_none hdescribed
    _ = r.1 := setArgumentWeight_of_none (Option.toList_eq_nil_iff.1 hweighed)

theorem removeAll_of_nil {ids : List RelationId} (h : removeAll g ids = .ok (g', [])) :
    g' = g := by
  cases ids with
  | nil =>
    cases h
    rfl
  | cons id ids =>
    rw [removeAll] at h
    obtain ⟨⟨k, e⟩, -, h⟩ := exists_of_bind h
    obtain ⟨⟨m, ds⟩, -, heq⟩ := exists_of_bind h
    cases heq

/-- An edit without events has left the graph as it was. -/
theorem apply_nil {e : Edit} (h : e.apply limits g = .ok (g', [])) : g' = g := by
  generalize hnil : ([] : List Event) = es at h
  cases done_of_apply h with
  | addArgument => cases hnil
  | editArgument _ _ hrename =>
    obtain ⟨rfl, hsame⟩ := redescribe_nil hnil.symm
    exact hsame.trans (renameArgument_of_nil hrename)
  | removeArgument hremove =>
    obtain ⟨-, -, hevents⟩ := Graph.removeArgument_inv hremove
    simp [← hnil] at hevents
  | clearRelations hremove =>
    subst hnil
    exact removeAll_of_nil hremove
  | addRelation => cases hnil
  | editRelation _ hkind =>
    obtain ⟨hswitched, hweighed⟩ := also_eq_nil hnil.symm
    rw [Option.toList_eq_nil_iff] at hswitched
    subst hswitched
    rw [setRelationWeight_of_none hweighed]
    exact setRelationKind_of_none hkind
  | reverseRelation => cases hnil
  | switchRelation _ hkind =>
    have hswitched := Option.toList_eq_nil_iff.1 hnil.symm
    subst hswitched
    exact setRelationKind_of_none hkind
  | removeRelation => cases hnil

end

end Edit

end Argumentation
