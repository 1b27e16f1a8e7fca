import Argumentation.Proofs.Description.RoundTrip
import Argumentation.Proofs.Edit

/-!
# Graphs within limits

A graph that a description within some limits can say: its identifiers are valid and its weights
lie in their ranges.  The canonical text of such a graph is read back as what the graph says
(`parse_toText`).

A graph that says the same as an accepted description is within the limits
(`within_of_sameStructure`), and edits keep it there (`within_effect`).
-/

namespace Argumentation

/-- Whether a store keeps to limits. -/
structure Store.Within (limits : Limits) (s : Store) : Prop where
  /-- Arguments have valid identifiers and weights in their range. -/
  arguments : ∀ id w, s.arguments id = some w →
    validateIdentifier limits id = .ok () ∧ checkWeight limits .node w = .ok ()
  /-- Relations have weights in their range. -/
  relations : ∀ key w, s.relations key = some w → checkWeight limits .edge w = .ok ()

/-- Equal weights lie in the same ranges. -/
theorem checkWeight_of_optionEq {limits : Limits} {kind : WeightKind} {v w : Option Binary64}
    (heq : Binary64.optionEq v w = true) (h : checkWeight limits kind w = .ok ()) :
    checkWeight limits kind v = .ok () := by
  cases v with
  | none => rfl
  | some x =>
    cases w with
    | none => simp [Binary64.optionEq] at heq
    | some y =>
      have hxy : x.numEq y = true := heq
      rw [← h, checkWeight, checkWeight]
      simp only [WeightRange.contains, Binary64.isNan_congr hxy, Binary64.le_congr_left hxy,
        Binary64.le_congr_right hxy]
      rfl

theorem checkWeight_settled {limits : Limits} {kind : WeightKind} {v w : Option Binary64}
    (hv : checkWeight limits kind v = .ok ()) (hw : checkWeight limits kind w = .ok ()) :
    checkWeight limits kind (Graph.settled v w) = .ok () := by
  unfold Graph.settled
  split
  · exact hv
  · exact hw

/-! ## Canonical texts -/

namespace Graph

variable {limits : Limits} {g : Graph}

theorem Sound.listable (sound : g.Sound) (within : g.store.Within limits) :
    Description.Listable limits g.argumentEntries g.relationEntries := by
  have hargument : ∀ e ∈ g.argumentEntries, g.store.arguments e.1 = some e.2 :=
    fun e he => (Assoc.get?_eq_some_iff sound.nodup_argumentEntries).2 he
  have hrelation : ∀ e ∈ g.relationEntries, g.store.relations e.1 = some e.2 :=
    fun e he => (Assoc.get?_eq_some_iff sound.nodup_relationEntries).2 he
  refine ⟨?_, ?_, ?_, ?_, ?_⟩
  · rw [sound.keys_argumentEntries]
    exact sound.canonical
  · intro id hid
    obtain ⟨e, he, rfl⟩ := List.mem_map.1 hid
    exact (within.arguments _ _ (hargument e he)).1
  · intro key hkey
    rw [keys_relationEntries] at hkey
    rw [sound.keys_argumentEntries]
    obtain ⟨r, hr, rfl⟩ := List.mem_map.1 hkey
    exact sound.joined r hr
  · exact fun e he => (within.arguments _ _ (hargument e he)).2
  · exact fun e he => within.relations _ _ (hrelation e he)

/-- The canonical text of a graph within the limits is read as what the graph says. -/
theorem Sound.parse_toText (sound : g.Sound) (within : g.store.Within limits) :
    Description.parse limits g.toText = .ok g.framework := by
  rw [toText_eq, Description.parse_listing (sound.listable within), framework_eq]

/-- A graph that says the same as a framework within the limits is within them. -/
theorem Sound.within_of_sameStructure (sound : g.Sound) {f : Framework} (meets : f.Meets limits)
    (same : f.sameStructure g.framework = true) : g.store.Within limits := by
  have hsame := Framework.sameStructure_symm meets.toDistinct sound.distinct_framework same
  rw [sound.sameStructure_framework_iff meets.toDistinct] at hsame
  constructor
  · intro id w hid
    have hrel := hsame.1 id
    rw [show g.argumentEntries.get? id = some w from hid] at hrel
    cases hget : f.arguments.get? id with
    | none => rw [hget] at hrel; cases hrel
    | some v =>
      rw [hget] at hrel
      cases hrel with
      | some heq =>
        have hmem := Assoc.mem_of_get? hget
        exact ⟨meets.valid id (Assoc.mem_keys_of_mem hmem),
          checkWeight_of_optionEq heq (meets.nodeWeights _ hmem)⟩
  · intro key w hkey
    have hrel := hsame.2 key
    rw [show g.relationEntries.get? key = some w from hkey] at hrel
    cases hget : f.relations.get? key with
    | none => rw [hget] at hrel; cases hrel
    | some v =>
      rw [hget] at hrel
      cases hrel with
      | some heq =>
        exact checkWeight_of_optionEq heq (meets.edgeWeights _ (Assoc.mem_of_get? hget))

end Graph

/-! ## Edits -/

namespace Store.Within

variable {limits : Limits} {s : Store} (within : s.Within limits)
include within

theorem setArgument {id : String} {w : Option Binary64}
    (hid : validateIdentifier limits id = .ok ()) (hw : checkWeight limits .node w = .ok ()) :
    (s.setArgument id w).Within limits := by
  refine ⟨fun other v h => ?_, within.relations⟩
  simp only [Store.setArgument, Function.update_apply] at h
  split at h
  · next heq =>
    cases h
    rw [heq]
    exact ⟨hid, hw⟩
  · exact within.arguments other v h

theorem setRelation {key : RelationKey} {w : Option Binary64}
    (hw : checkWeight limits .edge w = .ok ()) : (s.setRelation key w).Within limits := by
  refine ⟨within.arguments, fun other v h => ?_⟩
  simp only [Store.setRelation, Function.update_apply] at h
  split at h
  · cases h
    exact hw
  · exact within.relations other v h

theorem eraseRelation (key : RelationKey) : (s.eraseRelation key).Within limits := by
  refine ⟨within.arguments, fun other v h => ?_⟩
  simp only [Store.eraseRelation, Function.update_apply] at h
  split at h
  · cases h
  · exact within.relations other v h

theorem eraseRelationsOf (id : String) : (s.eraseRelationsOf id).Within limits := by
  refine ⟨within.arguments, fun other v h => ?_⟩
  simp only [Store.eraseRelationsOf] at h
  split at h
  · cases h
  · exact within.relations other v h

theorem eraseArgument (id : String) : (s.eraseArgument id).Within limits := by
  refine ⟨fun other v h => ?_, (within.eraseRelationsOf id).relations⟩
  simp only [Store.eraseArgument, Function.update_apply] at h
  split at h
  · cases h
  · exact within.arguments other v h

theorem rename {old new : String} (hnew : validateIdentifier limits new = .ok ()) :
    (s.rename old new).Within limits := by
  constructor
  · intro id w h
    simp only [Store.rename] at h
    split at h
    · next heq =>
      rw [heq]
      exact ⟨hnew, (within.arguments old w h).2⟩
    · split at h
      · cases h
      · exact within.arguments id w h
  · intro key w h
    simp only [Store.rename] at h
    split at h
    · cases h
    · exact within.relations _ w h

theorem weigh (id : String) {w : Option Binary64} (hw : checkWeight limits .node w = .ok ()) :
    (s.weigh id w).Within limits := by
  refine ⟨fun other v h => ?_, within.relations⟩
  simp only [Store.weigh, Function.update_apply] at h
  split at h
  · next heq =>
    obtain ⟨u, hu, rfl⟩ := Option.map_eq_some_iff.1 h
    obtain ⟨hid, hold⟩ := within.arguments id u hu
    rw [heq]
    exact ⟨hid, checkWeight_settled hold hw⟩
  · exact within.arguments other v h

theorem replaceRelation (old new : RelationKey) {w : Option Binary64}
    (hw : checkWeight limits .edge w = .ok ()) : (s.replaceRelation old new w).Within limits :=
  (within.eraseRelation old).setRelation hw

end Store.Within

/-- An edit that is not refused keeps a store within the limits. -/
theorem Edit.within_effect {limits : Limits} {g : Graph} (sound : g.Sound)
    (within : g.store.Within limits) {e : Edit} (h : ¬ e.Refused limits g) :
    (e.effect g).Within limits := by
  have hweight {id : RelationId} {r : Relation} (hr : g.relation? id = some r) :
      checkWeight limits .edge r.weight = .ok () :=
    within.relations _ _ (sound.store_relations_of_mem (Graph.mem_of_relation? hr).1)
  cases e with
  | addArgument id w description position =>
    simp only [Refused, WrongArgument, not_or, not_not] at h
    exact within.setArgument (validateIdentifier_canonicalId h.1.1) h.1.2.1
  | editArgument id newId w description =>
    simp only [Refused, WrongArgument, not_or, not_not] at h
    exact (within.rename (validateIdentifier_canonicalId h.1.1)).weigh _ h.1.2.1
  | removeArgument id => exact within.eraseArgument _
  | clearRelations id => exact within.eraseRelationsOf _
  | addRelation key w =>
    simp only [Refused, not_or, not_not] at h
    exact within.setRelation h.1
  | editRelation id kind w =>
    simp only [Refused, not_or, not_not] at h
    cases hr : g.relation? id with
    | none => exact absurd hr h.2.1
    | some r =>
      simp only [effect, onRelation, hr]
      exact within.replaceRelation _ _ (checkWeight_settled (hweight hr) h.1)
  | reverseRelation id =>
    cases hr : g.relation? id with
    | none => simpa only [effect, onRelation, hr] using within
    | some r =>
      simp only [effect, onRelation, hr]
      exact within.replaceRelation _ _ (hweight hr)
  | switchRelation id =>
    cases hr : g.relation? id with
    | none => simpa only [effect, onRelation, hr] using within
    | some r =>
      simp only [effect, onRelation, hr]
      exact within.replaceRelation _ _ (hweight hr)
  | removeRelation id =>
    cases hr : g.relation? id with
    | none => simpa only [effect, onRelation, hr] using within
    | some r =>
      simp only [effect, onRelation, hr]
      exact within.eraseRelation _

end Argumentation
