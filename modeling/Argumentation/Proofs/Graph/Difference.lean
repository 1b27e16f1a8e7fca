import Argumentation.Proofs.Graph.Target
import Argumentation.Proofs.Graph.Store

/-!
# What a reconciliation tells

The events of a reconciliation are the difference of the graph and the framework, and each is
told once.  A relation that goes is told either with an argument that goes or in the row after
that, and not in both; what stays with an equal weight is not told at all; and what comes is told
under numbers that no relation had before.

As for the graphs that the rows of steps lead to, there is a lemma for each row that lists its
events (`tells_removeArguments`, `tells_removeRelations`, `tells_putArguments` and
`tells_putRelations`).  The order of the events is not kept track of.

Main statement: `reconcile_tells_difference`.
-/

namespace Argumentation

open Argumentation.Graph

namespace Reconcile

variable {place : Placement} {p q : Progress} {g : Graph} {f : Framework}

/-! ## Rows of steps that tell -/

/-- Steps that tell some events, in whatever order. -/
def Tells (place : Placement) (p : Progress) (ss : List Step) (es : List Event) : Prop :=
  (run place p ss).1.events.Perm (p.events ++ es)

theorem Tells.nil (place : Placement) (p : Progress) : Tells place p [] [] := by
  rw [Tells, List.append_nil]
  exact .refl _

theorem Tells.cons {s : Step} {ss : List Step} {es ds fs : List Event}
    (hs : s.run place p = .ok q) (hevents : q.events = p.events ++ es)
    (h : Tells place q ss ds) (hperm : (es ++ ds).Perm fs) : Tells place p (s :: ss) fs := by
  rw [Tells, hevents, List.append_assoc] at h
  rw [Tells, run, hs]
  exact h.trans (hperm.append_left p.events)

/-- A row that is taken as a whole, with the events that it tells. -/
theorem runRows_cons_tells {row : Graph → List Step} {ids : List String} {es : List Event}
    (rs : List (Graph → List Step)) (leads : Leads place p (row p.graph) g ids)
    (tells : Tells place p (row p.graph) es) :
    ∃ ds, ds.Perm (p.events ++ es) ∧
      runRows place p (row :: rs) = runRows place ⟨g, ds, p.placed ++ ids⟩ rs := by
  obtain ⟨ds, hds⟩ := leads
  rw [Tells, hds] at tells
  exact ⟨ds, tells, by simp only [runRows, hds]⟩

/-! ## Arguments go -/

/-- The relations that an argument takes with it, and those that others take after it. -/
theorem filter_or_perm {α : Type} (a b : α → Bool) (l : List α) :
    (l.filter a ++ (l.filter (!a ·)).filter b).Perm (l.filter fun x => a x || b x) := by
  induction l with
  | nil => exact .refl _
  | cons x l ih =>
    simp only [List.filter_cons]
    cases ha : a x with
    | true => exact ih.cons x
    | false =>
      cases hb : b x with
      | true =>
        simp only [Bool.not_false, Bool.or_true, if_true, Bool.false_eq_true, if_false,
          List.filter_cons, hb]
        exact List.perm_middle.trans (ih.cons x)
      | false =>
        simp only [Bool.not_false, Bool.or_false, if_true, Bool.false_eq_true, if_false,
          List.filter_cons, hb]
        exact ih

theorem tells_removeArguments {ids : List String} (sound : p.graph.Sound) (hnodup : ids.Nodup)
    (hmem : ∀ id ∈ ids, id ∈ p.graph.keys) :
    Tells place p (ids.map .removeArgument) (ids.map .argumentRemoved ++
      (p.graph.relations.filter fun r => r.source ∈ ids ∨ r.target ∈ ids).map
        (.relationRemoved ·.id)) := by
  induction ids generalizing p with
  | nil =>
    have hnone : (p.graph.relations.filter fun r => r.source ∈ [] ∨ r.target ∈ []) = [] := by simp
    rw [hnone]
    exact .nil place p
  | cons id ids ih =>
    have hid := hmem id List.mem_cons_self
    have hcanonical := sound.canonical_eq hid
    have hremove := removeArgument_of_mem (hcanonical.symm ▸ hid)
    rw [hcanonical] at hremove
    rw [List.nodup_cons] at hnodup
    have hstep := Step.run_removeArgument place hremove
    have hrest : ∀ other ∈ ids, other ∈ (p.graph.without id).keys := by
      intro other hother
      have hne : other ≠ id := fun heq => hnodup.1 (heq ▸ hother)
      rw [keys_without]
      exact List.mem_filter.2 ⟨hmem other (List.mem_cons_of_mem _ hother), by simpa using hne⟩
    have hgone := filter_or_perm (touches id) (fun r => r.source ∈ ids ∨ r.target ∈ ids)
      p.graph.relations
    have hall : (p.graph.relations.filter fun r =>
        touches id r || decide (r.source ∈ ids ∨ r.target ∈ ids)) =
        p.graph.relations.filter fun r => r.source ∈ id :: ids ∨ r.target ∈ id :: ids := by
      refine List.filter_congr fun r _ => ?_
      rw [Bool.eq_iff_iff]
      simp only [touches, Bool.or_eq_true, decide_eq_true_eq, List.mem_cons]
      exact or_or_or_comm
    rw [hall] at hgone
    have hgone := hgone.map fun r => Event.relationRemoved r.id
    have hincident : (p.graph.incident id).map Event.relationRemoved =
        (p.graph.relations.filter (touches id)).map (.relationRemoved ·.id) := by
      rw [incident, hcanonical, List.map_map]
      rfl
    rw [List.map_append] at hgone
    rw [hincident] at hstep
    refine Tells.cons hstep rfl (ih (sound.without id) hnodup.2 hrest) ?_
    rw [List.append_assoc, List.singleton_append, List.map_cons, List.cons_append]
    refine List.perm_middle.trans (.cons _ ?_)
    exact (List.perm_append_comm_assoc _ _ _).trans (hgone.append_left _)

/-! ## Relations go -/

theorem tells_removeRelations {ids : List RelationId} (hnodup : ids.Nodup)
    (hmem : ∀ id ∈ ids, id ∈ p.graph.relationIds) :
    Tells place p (ids.map .removeRelation) (ids.map .relationRemoved) := by
  induction ids generalizing p with
  | nil => exact .nil place p
  | cons id ids ih =>
    rw [List.nodup_cons] at hnodup
    cases hr : p.graph.relation? id with
    | none =>
      obtain ⟨r, hrmem, hrid⟩ := List.mem_map.1 (hmem id List.mem_cons_self)
      exact absurd hrid (relation?_eq_none_iff.1 hr r hrmem)
    | some r =>
      have hstep := Step.run_removeRelation place (removeRelation_of_some hr)
      refine Tells.cons hstep rfl (ih hnodup.2 ?_) (.refl _)
      intro other hother
      obtain ⟨q, hq, hqid⟩ := List.mem_map.1 (hmem other (List.mem_cons_of_mem _ hother))
      have hne : q.id ≠ id := fun heq => hnodup.1 (by rwa [← heq, hqid])
      exact List.mem_map.2 ⟨q, List.mem_filter.2 ⟨hq, by simpa using hne⟩, hqid⟩

/-! ## Arguments are put -/

/-- Whether a weight is found, but another one. -/
def differs (found : Option (Option Binary64)) (w : Option Binary64) : Bool :=
  found.any (!Binary64.optionEq · w)

/-- The arguments that a graph has with another weight than some entries. -/
def reweighedArguments (g : Graph) (entries : Assoc String (Option Binary64)) : List String :=
  Assoc.keys (entries.filter fun e => differs (g.store.arguments e.1) e.2)

theorem reweighedArguments_cons (g : Graph) (e : String × Option Binary64)
    (entries : Assoc String (Option Binary64)) :
    reweighedArguments g (e :: entries) =
      (if differs (g.store.arguments e.1) e.2 then [e.1] else []) ++
        reweighedArguments g entries := by
  unfold reweighedArguments
  rw [List.filter_cons]
  cases differs (g.store.arguments e.1) e.2 <;> rfl

theorem reweighedArguments_congr {g' : Graph} {entries : Assoc String (Option Binary64)}
    (h : ∀ id ∈ entries.keys, g'.store.arguments id = g.store.arguments id) :
    reweighedArguments g' entries = reweighedArguments g entries := by
  unfold reweighedArguments
  rw [List.filter_congr fun e he => by rw [h e.1 (List.mem_map_of_mem he)]]

theorem event_setArgumentWeight (sound : g.Sound) {id : String} (hid : id ∈ g.keys)
    (w : Option Binary64) :
    (g.setArgumentWeight id w).2.toList =
      (if differs (g.store.arguments id) w then [id] else []).map .argumentUpdated := by
  have hcanonical := sound.canonical_eq hid
  obtain ⟨n, hfind, hn, hkey⟩ := exists_node_of_mem (hcanonical.symm ▸ hid)
  rw [hcanonical] at hkey
  subst hkey
  rw [setArgumentWeight_of_find hfind, sound.store_arguments_of_mem hn, differs, Option.any_some]
  cases Binary64.optionEq n.argument.weight w with
  | true => rfl
  | false =>
    rw [← sound.keyed n hn]
    rfl

/-- An argument that gets a weight is not among those that follow. -/
theorem reweighedArguments_setArgumentWeight (sound : g.Sound) {id : String}
    (hid : IsCanonical id) (w : Option Binary64) {entries : Assoc String (Option Binary64)}
    (hnot : id ∉ entries.keys) :
    reweighedArguments (g.setArgumentWeight id w).1 entries = reweighedArguments g entries := by
  refine reweighedArguments_congr fun other h => ?_
  have hother : other ≠ id := fun heq => hnot (heq ▸ h)
  rw [sound.store_setArgumentWeight hid]
  exact Function.update_of_ne hother _ _

/-- Nor is an argument that is new. -/
theorem reweighedArguments_newNode (sound : g.Sound) {e : String × Option Binary64}
    (hnew : e.1 ∉ g.keys) (position : Position) {entries : Assoc String (Option Binary64)}
    (hnot : e.1 ∉ entries.keys) :
    reweighedArguments { g with nodes := g.nodes ++ [newNode position e] } entries =
      reweighedArguments g entries := by
  refine reweighedArguments_congr fun other h => ?_
  have hother : other ≠ e.1 := fun heq => hnot (heq ▸ h)
  rw [sound.store_append_node rfl hnew]
  exact Function.update_of_ne hother _ _

theorem tells_putArguments (entries : Assoc String (Option Binary64))
    (hnodup : entries.keys.Nodup) (hcanonical : ∀ id ∈ entries.keys, IsCanonical id)
    (sound : p.graph.Sound) :
    Tells place p (entries.map fun e => .putArgument e.1 e.2)
      ((Assoc.keys (entries.filter (·.1 ∉ p.graph.keys))).map .argumentAdded ++
        (reweighedArguments p.graph entries).map .argumentUpdated) := by
  induction entries generalizing p with
  | nil => exact .nil place p
  | cons e entries ih =>
    rw [Assoc.keys_cons, List.nodup_cons] at hnodup
    have hid : IsCanonical e.1 := hcanonical e.1 List.mem_cons_self
    have hrest : ∀ id ∈ Assoc.keys entries, IsCanonical id :=
      fun id h => hcanonical id (List.mem_cons_of_mem _ h)
    rw [List.map_cons, reweighedArguments_cons, List.map_append]
    by_cases hmem : e.1 ∈ p.graph.keys
    · have hstep := Step.run_putArgument_of_mem place e.2 (hid.symm ▸ hmem)
      rw [event_setArgumentWeight sound hmem] at hstep
      have hskeleton := skeleton_setArgumentWeight p.graph e.1 e.2
      have hkeys := congrArg keys hskeleton
      rw [keys_skeleton, keys_skeleton] at hkeys
      have htells := ih (p := ⟨(p.graph.setArgumentWeight e.1 e.2).1, p.events ++
        (if differs (p.graph.store.arguments e.1) e.2 then [e.1] else []).map .argumentUpdated,
        p.placed⟩) hnodup.2 hrest (sound.of_skeleton hskeleton).1
      simp only [hkeys, reweighedArguments_setArgumentWeight sound hid e.2 hnodup.1] at htells
      rw [List.filter_cons, if_neg (by simp [hmem])]
      exact Tells.cons hstep rfl htells (List.perm_append_comm_assoc _ _ _)
    · have hnew := insertArgument_newNode hid hmem (place p.placed.length e.1)
      have hstep := Step.run_putArgument_of_not_mem e.2 (by rwa [hid]) hnew
      have hkeys : Graph.keys { p.graph with
          nodes := p.graph.nodes ++ [newNode (place p.placed.length e.1) e] } =
          p.graph.keys ++ [e.1] := keys_append_node p.graph _
      have htells := ih (p := ⟨_, p.events ++ [.argumentAdded e.1], p.placed ++ [e.1]⟩) hnodup.2
        hrest (sound.of_insertArgument hnew).1
      simp only [hkeys, filter_not_mem_concat hnodup.1,
        reweighedArguments_newNode sound hmem _ hnodup.1] at htells
      rw [List.filter_cons, if_pos (by simp [hmem]), sound.store_arguments_eq_none_iff.2 hmem]
      exact Tells.cons hstep rfl htells (.refl _)

/-! ## Relations are put -/

/-- The relations that a graph has with another weight than some entries. -/
def reweighedRelations (g : Graph) (entries : Assoc RelationKey (Option Binary64)) :
    List RelationId :=
  (Assoc.keys (entries.filter fun e => differs (g.store.relations e.1) e.2)).filterMap
    g.findRelation?

theorem reweighedRelations_cons_of_some {e : RelationKey × Option Binary64}
    {entries : Assoc RelationKey (Option Binary64)} {id : RelationId}
    (h : g.findRelation? e.1 = some id) :
    reweighedRelations g (e :: entries) =
      (if differs (g.store.relations e.1) e.2 then [id] else []) ++
        reweighedRelations g entries := by
  unfold reweighedRelations
  rw [List.filter_cons]
  cases differs (g.store.relations e.1) e.2 with
  | true => simp [h]
  | false => rfl

theorem reweighedRelations_cons_of_none {e : RelationKey × Option Binary64}
    {entries : Assoc RelationKey (Option Binary64)} (h : g.findRelation? e.1 = none) :
    reweighedRelations g (e :: entries) = reweighedRelations g entries := by
  unfold reweighedRelations
  rw [List.filter_cons]
  cases differs (g.store.relations e.1) e.2 with
  | true => simp [h]
  | false => rfl

theorem reweighedRelations_congr {g' : Graph} {entries : Assoc RelationKey (Option Binary64)}
    (hstore : ∀ key ∈ entries.keys, g'.store.relations key = g.store.relations key)
    (hfind : ∀ key ∈ entries.keys, g'.findRelation? key = g.findRelation? key) :
    reweighedRelations g' entries = reweighedRelations g entries := by
  unfold reweighedRelations
  rw [List.filter_congr fun e he => by rw [hstore e.1 (List.mem_map_of_mem he)]]
  exact List.filterMap_congr fun key h => hfind key ((List.filter_sublist.map _).subset h)

theorem event_setRelationWeight (sound : g.Sound) {key : RelationKey} {id : RelationId}
    (h : g.findRelation? key = some id) (w : Option Binary64) :
    (g.setRelationWeight id w).2.toList =
      (if differs (g.store.relations key) w then [id] else []).map .relationUpdated := by
  obtain ⟨r, hr, rfl, rfl⟩ := exists_of_findRelation? h
  rw [setRelationWeight_of_some (sound.relation?_eq_some_iff.2 ⟨hr, rfl⟩),
    sound.store_relations_of_mem hr, differs, Option.any_some]
  cases Binary64.optionEq r.weight w <;> rfl

theorem findRelation?_weighKey (g : Graph) (key : RelationKey) (w : Option Binary64)
    (other : RelationKey) : (weighKey g key w).findRelation? other = g.findRelation? other := by
  rw [findRelation?, weighKey, List.find?_map, Option.map_map, findRelation?]
  have hkey (r : Relation) : (if r.key = key then weighRelation w r else r).key = r.key := by
    split <;> rfl
  have hid (r : Relation) : (if r.key = key then weighRelation w r else r).id = r.id := by
    split <;> rfl
  simp only [Function.comp_def, hkey, hid]

theorem findRelation?_withRelation (g : Graph) {key other : RelationKey} (w : Option Binary64)
    (h : other ≠ key) : (g.withRelation key w).findRelation? other = g.findRelation? other := by
  have hlast : Relation.key ⟨g.counter.generate.1, key.source, key.target, key.kind, w⟩ ≠ other :=
    h.symm
  rw [findRelation?, withRelation, List.find?_append, List.find?_singleton,
    if_neg (by simpa using hlast), Option.or_none]
  rfl

/-- A relation that gets a weight is not among those that follow. -/
theorem reweighedRelations_weighKey (sound : g.Sound) {key : RelationKey} {id : RelationId}
    (hf : g.findRelation? key = some id) (w : Option Binary64)
    {entries : Assoc RelationKey (Option Binary64)} (hnot : key ∉ entries.keys) :
    reweighedRelations (weighKey g key w) entries = reweighedRelations g entries := by
  obtain ⟨r, hr, hkey, hid⟩ := exists_of_findRelation? hf
  refine reweighedRelations_congr (fun other h => ?_)
    fun other _ => findRelation?_weighKey g key w other
  have hother : other ≠ key := fun heq => hnot (heq ▸ h)
  rw [← setRelationWeight_of_find sound hf w, ← hid, sound.store_setRelationWeight hr, hkey,
    Store.replaceRelation, Store.setRelation, Store.eraseRelation, Function.update_idem]
  exact Function.update_of_ne hother _ _

/-- Nor is a relation that is new. -/
theorem reweighedRelations_withRelation {key : RelationKey} (hnew : key ∉ g.relationKeys)
    (w : Option Binary64) {entries : Assoc RelationKey (Option Binary64)}
    (hnot : key ∉ entries.keys) :
    reweighedRelations (g.withRelation key w) entries = reweighedRelations g entries := by
  have hother {other : RelationKey} (h : other ∈ entries.keys) : other ≠ key :=
    fun heq => hnot (heq ▸ h)
  refine reweighedRelations_congr (fun other h => ?_)
    fun other h => findRelation?_withRelation g w (hother h)
  rw [store_withRelation hnew]
  exact Function.update_of_ne (hother h) _ _

/-- The numbers that some new relations get. -/
def numbersFrom (first : UInt64) (entries : Assoc RelationKey (Option Binary64)) :
    List RelationId :=
  entries.mapIdx fun i e => (newLink (first + UInt64.ofNat i) e).id

theorem numbersFrom_cons (first : UInt64) (e : RelationKey × Option Binary64)
    (entries : Assoc RelationKey (Option Binary64)) :
    numbersFrom first (e :: entries) = ⟨first⟩ :: numbersFrom (first + 1) entries := by
  simp only [numbersFrom, List.mapIdx_cons, add_ofNat_succ]
  rw [newLink, add_ofNat_zero]

theorem tells_putRelations (entries : Assoc RelationKey (Option Binary64))
    (hnodup : entries.keys.Nodup)
    (hjoined : ∀ key ∈ entries.keys, key.source ∈ p.graph.keys ∧ key.target ∈ p.graph.keys)
    (sound : p.graph.Sound) {n : Nat}
    (hnext : p.graph.counter.next.toNat ≤ n + relationsAdded p.events)
    (room : n + relationsAdded (run place p (entries.map fun e => .putRelation e.1 e.2)).1.events ≤
      lastNumber) :
    Tells place p (entries.map fun e => .putRelation e.1 e.2)
      ((numbersFrom p.graph.counter.next (entries.filter (·.1 ∉ p.graph.relationKeys))).map
          .relationAdded ++
        (reweighedRelations p.graph entries).map .relationUpdated) := by
  induction entries generalizing p with
  | nil => exact .nil place p
  | cons e entries ih =>
    rw [Assoc.keys_cons, List.nodup_cons] at hnodup
    obtain ⟨hs, ht⟩ := hjoined e.1 List.mem_cons_self
    have hrest (key : RelationKey) (h : key ∈ Assoc.keys entries) :=
      hjoined key (List.mem_cons_of_mem _ h)
    rw [List.map_cons] at room ⊢
    cases hf : p.graph.findRelation? e.1 with
    | some id =>
      have hmem : e.1 ∈ p.graph.relationKeys :=
        isSome_findRelation?_iff.1 (Option.isSome_iff_exists.2 ⟨id, hf⟩)
      have hstep := Step.run_putRelation_of_some place e.2 hf
      rw [event_setRelationWeight sound hf, setRelationWeight_of_find sound hf e.2] at hstep
      obtain ⟨hsound, hcounter, hroom⟩ := sound_of_putRelation hstep sound hnext room
      have htells := ih (p := ⟨weighKey p.graph e.1 e.2, p.events ++
        (if differs (p.graph.store.relations e.1) e.2 then [id] else []).map Event.relationUpdated,
        p.placed⟩) hnodup.2 hrest hsound hcounter hroom
      simp only [relationKeys_weighKey, reweighedRelations_weighKey sound hf e.2 hnodup.1] at htells
      rw [List.filter_cons, if_neg (by simp [hmem]), reweighedRelations_cons_of_some hf,
        List.map_append]
      exact Tells.cons hstep rfl htells (List.perm_append_comm_assoc _ _ _)
    | none =>
      have hmem := findRelation?_eq_none_iff.1 hf
      have hstep := Step.run_putRelation_of_none place hf
        (insertRelation_withRelation sound hs ht hmem)
      obtain ⟨hsound, hcounter, hroom⟩ := sound_of_putRelation hstep sound hnext room
      have htells := ih (p := ⟨p.graph.withRelation e.1 e.2,
        p.events ++ [Event.relationAdded p.graph.counter.generate.1], p.placed⟩)
        hnodup.2 hrest hsound hcounter hroom
      simp only [relationKeys_withRelation, filter_not_mem_concat hnodup.1,
        reweighedRelations_withRelation hmem e.2 hnodup.1] at htells
      rw [List.filter_cons, if_pos (by simp [hmem]), numbersFrom_cons,
        reweighedRelations_cons_of_none hf]
      exact Tells.cons hstep rfl htells (.refl _)

/-! ## The difference -/

/-- The arguments that are not declared. -/
def goneArguments (g : Graph) (f : Framework) : List String :=
  g.keys.filter (!f.containsArgument ·)

/-- The relations that are not declared. -/
def goneRelations (g : Graph) (f : Framework) : List RelationId :=
  (g.relations.filter (!f.containsRelation ·.key)).map (·.id)

/-- What goes and which arguments are put, as events. -/
def firstDifference (g : Graph) (f : Framework) : List Event :=
  ((goneArguments g f).map .argumentRemoved ++ (goneRelations g f).map .relationRemoved) ++
    ((Assoc.keys (newArguments g f)).map .argumentAdded ++
      (reweighedArguments g f.arguments).map .argumentUpdated)

/-- The difference of a graph and a framework, as events. -/
def difference (g : Graph) (f : Framework) : List Event :=
  firstDifference g f ++
    ((numbersFrom g.counter.next (newRelations g f)).map .relationAdded ++
      (reweighedRelations g f.relations).map .relationUpdated)

theorem tells_dropArguments (sound : p.graph.Sound) (f : Framework) :
    Tells place p (dropArguments f p.graph) ((goneArguments p.graph f).map .argumentRemoved ++
      (p.graph.relations.filter fun r =>
        !(f.containsArgument r.source && f.containsArgument r.target)).map
          (.relationRemoved ·.id)) := by
  have hrelations : (p.graph.relations.filter fun r =>
      r.source ∈ goneArguments p.graph f ∨ r.target ∈ goneArguments p.graph f) =
      p.graph.relations.filter fun r =>
        !(f.containsArgument r.source && f.containsArgument r.target) := by
    refine List.filter_congr fun r hr => ?_
    obtain ⟨hs, ht⟩ := sound.joined r hr
    rw [Bool.eq_iff_iff]
    simp [goneArguments, hs, ht]
  have htells : Tells place p _ _ := tells_removeArguments sound
    (sound.nodup_keys.sublist (List.filter_sublist (p := (!f.containsArgument ·))))
    fun id h => List.mem_of_mem_filter h
  rw [← goneArguments, hrelations] at htells
  rw [dropArguments, sound.map_id_arguments]
  exact htells

theorem tells_dropRelations (sound : p.graph.Sound) (f : Framework) :
    Tells place p (dropRelations f p.graph) ((goneRelations p.graph f).map .relationRemoved) := by
  have hsub := (List.filter_sublist (p := fun r : Relation => !f.containsRelation r.key)
    (l := p.graph.relations)).map (·.id)
  have htells : Tells place p _ _ :=
    tells_removeRelations (sound.nodup_ids.sublist hsub) fun id h => hsub.subset h
  rw [List.map_map] at htells
  exact htells

/-- The relations that go in the first two rows are those that are not declared. -/
theorem goneRelations_perm (g : Graph) (proper : f.Proper) :
    ((g.relations.filter fun r =>
        !(f.containsArgument r.source && f.containsArgument r.target)).map (·.id) ++
      goneRelations (afterDrop g f) f).Perm (goneRelations g f) := by
  have hperm := filter_or_perm
    (fun r : Relation => !(f.containsArgument r.source && f.containsArgument r.target))
    (fun r => !f.containsRelation r.key) g.relations
  have hall : (g.relations.filter fun r =>
      !(f.containsArgument r.source && f.containsArgument r.target) ||
        !f.containsRelation r.key) = g.relations.filter (!f.containsRelation ·.key) := by
    refine List.filter_congr fun r _ => ?_
    cases hc : f.containsRelation r.key with
    | false => exact Bool.or_true _
    | true =>
      obtain ⟨hs, ht⟩ := proper.joined r.key (Framework.containsRelation_iff.1 hc)
      have hs : f.containsArgument r.source = true := Framework.containsArgument_iff.2 hs
      have ht : f.containsArgument r.target = true := Framework.containsArgument_iff.2 ht
      rw [hs, ht]
      rfl
  have hrest : (g.relations.filter fun r =>
      !!(f.containsArgument r.source && f.containsArgument r.target)) =
      (afterDrop g f).relations :=
    List.filter_congr fun r _ => by simp
  rw [hall, hrest] at hperm
  have hperm := hperm.map Relation.id
  rwa [List.map_append] at hperm

theorem store_arguments_kept (sound : g.Sound) (proper : f.Proper) {id : String}
    (h : id ∈ f.arguments.keys) : (kept g f).store.arguments id = g.store.arguments id := by
  have hentries : (kept g f).argumentEntries =
      g.argumentEntries.filter fun e => f.containsArgument e.1 := by
    rw [(sound_kept sound proper).argumentEntries_eq, sound.argumentEntries_eq, List.filter_map]
    rfl
  rw [store, hentries]
  exact (Assoc.get?_filter f.containsArgument g.argumentEntries id).trans
    (if_pos (Framework.containsArgument_iff.2 h))

theorem store_relations_kept (g : Graph) {key : RelationKey} (h : key ∈ f.relations.keys) :
    (kept g f).store.relations key = g.store.relations key := by
  have hentries : (kept g f).relationEntries =
      g.relationEntries.filter fun e => f.containsRelation e.1 := by
    rw [relationEntries, relationEntries, List.filter_map]
    rfl
  rw [store, hentries]
  exact (Assoc.get?_filter f.containsRelation g.relationEntries key).trans
    (if_pos (Framework.containsRelation_iff.2 h))

theorem findRelation?_kept (g : Graph) {key : RelationKey} (h : key ∈ f.relations.keys) :
    (kept g f).findRelation? key = g.findRelation? key := by
  have hdeclared : f.containsRelation key = true := Framework.containsRelation_iff.2 h
  have hsame (r : Relation) :
      (f.containsRelation r.key = true ∧ decide (r.key = key) = true) ↔ r.key = key := by
    rw [decide_eq_true_eq, and_iff_right_iff_imp]
    rintro rfl
    exact hdeclared
  rw [findRelation?, kept, List.find?_filter]
  simp only [hsame, findRelation?]

/-- The first three rows tell what goes and which arguments are put. -/
theorem exists_runRows_tells (sound : g.Sound) (proper : f.Proper) (place : Placement) :
    ∃ es, es.Perm (firstDifference g f) ∧
      runRows place { graph := g } (rows f) =
        run place ⟨afterPut g f place, es, (newArguments g f).map (·.1)⟩
          (f.relations.map fun e => .putRelation e.1 e.2) := by
  have hfirst : Leads place { graph := g } _ _ [] := leads_dropArguments sound f
  obtain ⟨es, hes, hrun⟩ := runRows_cons_tells
    [dropRelations f, putArguments f, putRelations f] hfirst (tells_dropArguments sound f)
  have hdrop : Leads place ⟨afterDrop g f, es, []⟩ _ _ [] :=
    leads_dropRelations (sound_afterDrop sound f) f
  rw [filter_afterDrop g proper] at hdrop
  obtain ⟨ds, hds, hrun'⟩ := runRows_cons_tells [putArguments f, putRelations f] hdrop
    (tells_dropRelations (sound_afterDrop sound f) f)
  have hput : Leads place ⟨kept g f, ds, []⟩ _ _ _ :=
    leads_putArguments_kept sound proper rfl rfl
  have htells : Tells place ⟨kept g f, ds, []⟩ _ _ :=
    tells_putArguments f.arguments proper.arguments proper.canonical (sound_kept sound proper)
  obtain ⟨fs, hfs, hrun''⟩ := runRows_cons_tells [putRelations f] hput htells
  rw [filter_keys_kept, reweighedArguments_congr fun id h => store_arguments_kept sound proper h]
    at hfs
  refine ⟨fs, hfs.trans (.append_right _ (hds.trans ?_)),
    hrun.trans (hrun'.trans (hrun''.trans (runRows_singleton _)))⟩
  have hgone := (goneRelations_perm g proper).map Event.relationRemoved
  rw [List.map_append, List.map_map] at hgone
  refine (hes.append_right _).trans ?_
  rw [List.nil_append, List.append_assoc]
  exact hgone.append_left _

/-- A reconciliation that is not refused has taken all rows. -/
theorem exists_runRows_of_ok {es : List Event} (h : (g.reconcile f place).outcome = .ok es) :
    ∃ p, runRows place { graph := g } (rows f) = (p, none) ∧ p.events = es ∧
      (g.reconcile f place).graph = p.graph.reseed := by
  unfold Graph.reconcile at h ⊢
  cases hu : undeclaredEnd? f with
  | some found => rw [hu] at h; cases h
  | none =>
    cases hrun : runRows place { graph := g } (rows f) with
    | mk p e =>
      simp only [hu, hrun] at h ⊢
      cases e with
      | some e => cases h
      | none => exact ⟨p, rfl, Except.ok.inj h, rfl⟩

/-- The events of a reconciliation are the difference of the graph and the framework. -/
theorem reconcile_tells (sound : g.Sound) (proper : f.Proper) {n : Nat}
    (hnext : g.counter.next.toNat ≤ n) {es : List Event}
    (hok : (g.reconcile f place).outcome = .ok es) (room : n + relationsAdded es ≤ lastNumber) :
    es.Perm (difference g f) := by
  obtain ⟨ds, hds, hrows⟩ := exists_runRows_tells sound proper place
  obtain ⟨q, hrun, rfl, -⟩ := exists_runRows_of_ok hok
  rw [hrun] at hrows
  have hevents := congrArg (·.1.events) hrows
  dsimp only at hevents
  rw [hevents] at room
  have htells := tells_putRelations f.relations proper.relations
    (fun key h => (proper.joined key h).imp mem_keys_afterPut mem_keys_afterPut)
    (sound_afterPut sound proper place) (Nat.le_add_right_of_le hnext) room
  have hnew : f.relations.filter (·.1 ∉ (afterPut g f place).relationKeys) = newRelations g f :=
    filter_relationKeys_kept g f
  have hold : reweighedRelations (afterPut g f place) f.relations =
      reweighedRelations g f.relations :=
    reweighedRelations_congr (fun key h => store_relations_kept g h)
      fun key h => findRelation?_kept g h
  rw [Tells, ← hevents, hnew, hold] at htells
  exact htells.trans (hds.append_right _)

/-! ## Numbers of new relations -/

theorem length_numbersFrom (first : UInt64) (entries : Assoc RelationKey (Option Binary64)) :
    (numbersFrom first entries).length = entries.length := List.length_mapIdx

/-- The numbers start from the first one, and none is given twice. -/
theorem nodup_numbersFrom {first : UInt64} {entries : Assoc RelationKey (Option Binary64)}
    (room : first.toNat + entries.length ≤ lastNumber) :
    (numbersFrom first entries).Nodup ∧
      ∀ id ∈ numbersFrom first entries, first.toNat ≤ id.number.toNat := by
  induction entries generalizing first with
  | nil => exact ⟨List.nodup_nil, fun id h => absurd h List.not_mem_nil⟩
  | cons e entries ih =>
    rw [List.length_cons] at room
    have hlast : lastNumber + 1 = UInt64.size := by decide
    have hnext : (first + 1).toNat = first.toNat + 1 := by
      rw [UInt64.toNat_add]
      exact Nat.mod_eq_of_lt (show first.toNat + 1 < UInt64.size by omega)
    have hroom : (first + 1).toNat + entries.length ≤ lastNumber := by omega
    obtain ⟨hnodup, hle⟩ := ih hroom
    rw [hnext] at hle
    rw [numbersFrom_cons]
    refine ⟨List.nodup_cons.2 ⟨fun hmem => ?_, hnodup⟩, fun id h => ?_⟩
    · exact absurd (hle _ hmem) (Nat.not_succ_le_self _)
    · cases List.mem_cons.1 h with
      | inl heq => exact Nat.le_of_eq (congrArg (·.number.toNat) heq.symm)
      | inr hmem => exact Nat.le_of_succ_le (hle id hmem)

theorem relationsAdded_difference (g : Graph) (f : Framework) :
    relationsAdded (difference g f) = (newRelations g f).length := by
  simp [relationsAdded, difference, firstDifference, List.countP_map, Function.comp_def,
    Event.isRelationAdded, length_numbersFrom]

/-! ## Each event once -/

theorem eq_of_findRelation?_eq (sound : g.Sound) {key other : RelationKey} {id : RelationId}
    (h : g.findRelation? key = some id) (ho : g.findRelation? other = some id) : key = other := by
  obtain ⟨q, hq, rfl, rfl⟩ := exists_of_findRelation? h
  obtain ⟨r, hr, rfl, hid⟩ := exists_of_findRelation? ho
  rw [sound.eq_of_id_eq hq hr hid.symm]

theorem nodup_reweighedRelations (sound : g.Sound) (distinct : f.Distinct) :
    (reweighedRelations g f.relations).Nodup :=
  (distinct.relations.sublist (List.filter_sublist.map _)).filterMap
    fun _ _ _ h ho => eq_of_findRelation?_eq sound h ho

theorem nodup_told {α : Type} {event : α → Event} (hinj : Function.Injective event) {l : List α}
    {es : List Event} (hl : l.Nodup) (hes : es.Nodup) (hfree : ∀ a, event a ∉ es) :
    (l.map event ++ es).Nodup := by
  refine List.nodup_append.2 ⟨hl.map hinj, hes, ?_⟩
  rintro e he d hd rfl
  obtain ⟨a, -, rfl⟩ := List.mem_map.1 he
  exact hfree a hd

theorem nodup_difference (sound : g.Sound) (proper : f.Proper)
    (room : g.counter.next.toNat + (newRelations g f).length ≤ lastNumber) :
    (difference g f).Nodup := by
  have hgoneArguments : (goneArguments g f).Nodup := sound.nodup_keys.sublist List.filter_sublist
  have hgoneRelations : (goneRelations g f).Nodup :=
    sound.nodup_ids.sublist (List.filter_sublist.map _)
  have hnew : (Assoc.keys (newArguments g f)).Nodup :=
    proper.arguments.sublist (List.filter_sublist.map _)
  have hreweighed : (reweighedArguments g f.arguments).Nodup :=
    proper.arguments.sublist (List.filter_sublist.map _)
  have hlast := (nodup_reweighedRelations sound proper.toDistinct).map (f := Event.relationUpdated)
    fun _ _ => Event.relationUpdated.inj
  rw [difference, firstDifference, List.append_assoc, List.append_assoc, List.append_assoc]
  -- Events of different kinds differ, so each kind may be looked at on its own.
  refine nodup_told (fun _ _ => Event.argumentRemoved.inj) hgoneArguments ?_ (by simp)
  refine nodup_told (fun _ _ => Event.relationRemoved.inj) hgoneRelations ?_ (by simp)
  refine nodup_told (fun _ _ => Event.argumentAdded.inj) hnew ?_ (by simp)
  refine nodup_told (fun _ _ => Event.argumentUpdated.inj) hreweighed ?_ (by simp)
  exact nodup_told (fun _ _ => Event.relationAdded.inj) (nodup_numbersFrom room).1 hlast (by simp)

/-! ## What is told -/

/-- What a graph and a framework differ in.  New relations are told under the numbers that they
have in the graph that is reached. -/
def InDifference (g : Graph) (f : Framework) (reached : Graph) : Event → Prop
  | .argumentRemoved id => (∃ a ∈ g.arguments, a.id = id) ∧ id ∉ f.arguments.keys
  | .argumentAdded id => id ∈ f.arguments.keys ∧ ¬ ∃ a ∈ g.arguments, a.id = id
  | .argumentUpdated id =>
    ∃ a ∈ g.arguments, a.id = id ∧ ∃ w, (id, w) ∈ f.arguments ∧
      Binary64.optionEq a.weight w = false
  | .relationRemoved n => ∃ r ∈ g.relations, r.id = n ∧ r.key ∉ f.relations.keys
  | .relationUpdated n =>
    ∃ r ∈ g.relations, r.id = n ∧ ∃ w, (r.key, w) ∈ f.relations ∧
      Binary64.optionEq r.weight w = false
  | .relationAdded n =>
    ∃ key ∈ f.relations.keys, key ∉ g.relationKeys ∧ reached.findRelation? key = some n
  | .argumentRenamed .. => False
  | .relationMoved _ => False

theorem mem_keys_iff (sound : g.Sound) {id : String} :
    id ∈ g.keys ↔ ∃ a ∈ g.arguments, a.id = id := by
  rw [← sound.map_id_arguments, List.mem_map]

theorem mem_goneArguments_iff (sound : g.Sound) {id : String} :
    id ∈ goneArguments g f ↔ (∃ a ∈ g.arguments, a.id = id) ∧ id ∉ f.arguments.keys := by
  rw [goneArguments, List.mem_filter, mem_keys_iff sound, ← Framework.containsArgument_iff,
    Bool.not_eq_true', Bool.not_eq_true]

theorem mem_goneRelations_iff {n : RelationId} :
    n ∈ goneRelations g f ↔ ∃ r ∈ g.relations, r.id = n ∧ r.key ∉ f.relations.keys := by
  simp only [goneRelations, List.mem_map, List.mem_filter, ← Framework.containsRelation_iff,
    Bool.not_eq_true', Bool.not_eq_true, and_assoc, and_comm (a := _ = n)]

theorem mem_keys_newArguments_iff (sound : g.Sound) {id : String} :
    id ∈ (newArguments g f).keys ↔ id ∈ f.arguments.keys ∧ ¬ ∃ a ∈ g.arguments, a.id = id := by
  rw [← mem_keys_iff sound]
  constructor
  · intro h
    obtain ⟨e, he, rfl⟩ := List.mem_map.1 h
    obtain ⟨hentry, hnot⟩ := List.mem_filter.1 he
    exact ⟨List.mem_map_of_mem hentry, of_decide_eq_true hnot⟩
  · rintro ⟨hmem, hnot⟩
    obtain ⟨e, he, rfl⟩ := List.mem_map.1 hmem
    exact List.mem_map_of_mem (List.mem_filter.2 ⟨he, decide_eq_true hnot⟩)

theorem differs_iff {found : Option (Option Binary64)} {w : Option Binary64} :
    differs found w = true ↔ ∃ v, found = some v ∧ Binary64.optionEq v w = false := by
  simp [differs, Option.any_eq_true]

theorem mem_reweighedArguments_iff (sound : g.Sound) {id : String} :
    id ∈ reweighedArguments g f.arguments ↔
      ∃ a ∈ g.arguments, a.id = id ∧ ∃ w, (id, w) ∈ f.arguments ∧
        Binary64.optionEq a.weight w = false := by
  have hstore {v : Option Binary64} :
      g.store.arguments id = some v ↔ ∃ a ∈ g.arguments, a.id = id ∧ a.weight = v :=
    (Assoc.get?_eq_some_iff sound.nodup_argumentEntries).trans mem_argumentEntries_iff
  constructor
  · intro h
    obtain ⟨⟨_, w⟩, he, rfl⟩ := List.mem_map.1 h
    obtain ⟨hentry, hdiffers⟩ := List.mem_filter.1 he
    obtain ⟨v, hv, hne⟩ := differs_iff.1 hdiffers
    obtain ⟨a, ha, hid, rfl⟩ := hstore.1 hv
    exact ⟨a, ha, hid, w, hentry, hne⟩
  · rintro ⟨a, ha, hid, w, hentry, hne⟩
    exact List.mem_map.2 ⟨(id, w), List.mem_filter.2 ⟨hentry,
      differs_iff.2 ⟨a.weight, hstore.2 ⟨a, ha, hid, rfl⟩, hne⟩⟩, rfl⟩

theorem mem_reweighedRelations_iff (sound : g.Sound) {n : RelationId} :
    n ∈ reweighedRelations g f.relations ↔
      ∃ r ∈ g.relations, r.id = n ∧ ∃ w, (r.key, w) ∈ f.relations ∧
        Binary64.optionEq r.weight w = false := by
  constructor
  · intro h
    obtain ⟨_, hkey, hfind⟩ := List.mem_filterMap.1 h
    obtain ⟨⟨_, w⟩, he, rfl⟩ := List.mem_map.1 hkey
    obtain ⟨hentry, hdiffers⟩ := List.mem_filter.1 he
    obtain ⟨r, hr, hrkey, hid⟩ := exists_of_findRelation? hfind
    obtain ⟨v, hv, hne⟩ := differs_iff.1 hdiffers
    rw [← hrkey, sound.store_relations_of_mem hr, Option.some_inj] at hv
    subst hv
    exact ⟨r, hr, hid, w, hrkey ▸ hentry, hne⟩
  · rintro ⟨r, hr, rfl, w, hentry, hne⟩
    refine List.mem_filterMap.2 ⟨r.key, List.mem_map.2 ⟨(r.key, w), List.mem_filter.2 ⟨hentry,
      differs_iff.2 ⟨r.weight, sound.store_relations_of_mem hr, hne⟩⟩, rfl⟩, ?_⟩
    exact sound.findRelation?_eq_some_iff.2 ⟨r, hr, rfl, rfl⟩

/-- The new numbers are those of the relations that are declared and were not there. -/
theorem mem_numbersFrom_iff (reached : (target g f place).reseed.Sound) {n : RelationId} :
    n ∈ numbersFrom g.counter.next (newRelations g f) ↔
      ∃ key ∈ f.relations.keys, key ∉ g.relationKeys ∧
        (target g f place).reseed.findRelation? key = some n := by
  have hnew (i : Nat) (h : i < (newRelations g f).length) :
      newLink (g.counter.next + UInt64.ofNat i) (newRelations g f)[i] ∈
        (target g f place).reseed.relations :=
    List.mem_append_right _ (List.mem_mapIdx.2 ⟨i, h, rfl⟩)
  constructor
  · intro h
    obtain ⟨i, hi, rfl⟩ := List.mem_mapIdx.1 h
    obtain ⟨hmem, hnot⟩ := List.mem_filter.1 (List.getElem_mem hi)
    exact ⟨_, List.mem_map_of_mem hmem, of_decide_eq_true hnot,
      reached.findRelation?_eq_some_iff.2 ⟨_, hnew i hi, rfl, rfl⟩⟩
  · rintro ⟨key, -, hnot, hfind⟩
    obtain ⟨r, hr, rfl, rfl⟩ := exists_of_findRelation? hfind
    cases List.mem_append.1 hr with
    | inl hold =>
      obtain ⟨q, hq, rfl⟩ := List.mem_map.1 hold
      rw [key_putLink] at hnot
      exact absurd (List.mem_map_of_mem (List.mem_of_mem_filter hq)) hnot
    | inr hnew =>
      obtain ⟨i, hi, rfl⟩ := List.mem_mapIdx.1 hnew
      exact List.mem_mapIdx.2 ⟨i, hi, rfl⟩

theorem mem_difference_iff (sound : g.Sound) (reached : (target g f place).reseed.Sound)
    (e : Event) : e ∈ difference g f ↔ InDifference g f (target g f place).reseed e := by
  simp only [difference, firstDifference, List.mem_append, List.mem_map]
  cases e with
  | argumentRemoved id => simp [InDifference, mem_goneArguments_iff sound]
  | argumentAdded id => simp [InDifference, mem_keys_newArguments_iff sound]
  | argumentUpdated id => simp [InDifference, mem_reweighedArguments_iff sound]
  | relationRemoved n => simp [InDifference, mem_goneRelations_iff]
  | relationUpdated n => simp [InDifference, mem_reweighedRelations_iff sound]
  | relationAdded n => simp [InDifference, mem_numbersFrom_iff reached]
  | argumentRenamed old new => simp [InDifference]
  | relationMoved n => simp [InDifference]

/-- Every relation that is declared is there in the end. -/
theorem exists_findRelation?_target (place : Placement) {key : RelationKey}
    (h : key ∈ f.relations.keys) :
    ∃ n, (target g f place).reseed.findRelation? key = some n :=
  Option.isSome_iff_exists.1 (isSome_findRelation?_iff.2 (mem_relationKeys_target place h))

/-- A reconciliation ends with its target and tells the difference. -/
theorem exists_reconcile_eq (sound : g.Sound) (proper : f.Proper) (place : Placement) {n : Nat}
    (hpos : 1 ≤ n) (hnext : g.counter.next.toNat ≤ n)
    (room : n + g.drawn (.reconcile f place) ≤ lastNumber) :
    ∃ es, g.reconcile f place = ⟨(target g f place).reseed, (newArguments g f).map (·.1), .ok es⟩ ∧
      es.Perm (difference g f) ∧ (target g f place).reseed.Sound ∧
      g.counter.next.toNat + (newRelations g f).length ≤ lastNumber := by
  obtain ⟨es, heq⟩ := reconcile_eq sound proper place (by omega)
  obtain ⟨fs, hok, hdrawn⟩ := reconcile_ok sound proper place
  obtain ⟨ds, changes, hds⟩ := changes_reconcile g f place
  have reached := (changes.within sound hpos hnext (by omega)).1
  have hperm := reconcile_tells sound proper hnext hok (by omega)
  rw [heq] at hok reached
  cases hok
  have hcount : relationsAdded es = (newRelations g f).length := by
    rw [relationsAdded, hperm.countP_eq]
    exact relationsAdded_difference g f
  exact ⟨es, heq, hperm, reached, by omega⟩

end Reconcile

namespace Graph

/-- A reconciliation of a graph that can be reached with what a description says tells the
difference of both, each event once.  There is one event for each relation that is declared and
was not there, and its number is greater than all numbers that there were. -/
theorem reconcile_tells_difference (limits : Limits) (text : String) (f : Framework)
    (accepted : Description.parse limits text = .ok f) (ops : List Operation)
    (place : Reconcile.Placement)
    (room : drawnBy {} (ops ++ [.reconcile f place]) < lastNumber) :
    let g := run {} ops
    let r := g.reconcile f place
    ∃ events, r.outcome = .ok events ∧ events.Nodup ∧
      (∀ e, e ∈ events ↔ Reconcile.InDifference g f r.graph e) ∧
      (∀ key ∈ f.relations.keys, key ∉ g.relationKeys →
        ∃ n, r.graph.findRelation? key = some n ∧ .relationAdded n ∈ events) ∧
      relationsAdded events = (f.relations.filter (·.1 ∉ g.relationKeys)).length ∧
      (∀ n, .relationAdded n ∈ events → ∀ m ∈ g.relationIds, m.number < n.number) ∧
      ∀ n, ¬ (.relationAdded n ∈ events ∧ .relationRemoved n ∈ events) := by
  have meets := Description.parse_meets accepted
  have hdrawn : drawnBy {} (ops ++ [.reconcile f place]) =
      drawnBy {} ops + (run {} ops).drawn (.reconcile f place) := drawnBy_append {} ops _
  rw [hdrawn] at room
  obtain ⟨sound, hnext⟩ := run_sound ops (by omega)
  generalize run {} ops = g at room sound hnext ⊢
  obtain ⟨events, heq, hperm, reached, hroom⟩ :=
    Reconcile.exists_reconcile_eq sound meets.toProper place (Nat.le_add_right 1 _) hnext (by omega)
  have hmem (e : Event) : e ∈ events ↔ Reconcile.InDifference g f (g.reconcile f place).graph e := by
    rw [hperm.mem_iff, heq]
    exact Reconcile.mem_difference_iff sound reached e
  have hgreater (n : RelationId) (hn : .relationAdded n ∈ events) :
      ∀ m ∈ g.relationIds, m.number < n.number := by
    rw [hmem, heq] at hn
    have hle := (Reconcile.nodup_numbersFrom hroom).2 n ((Reconcile.mem_numbersFrom_iff reached).2 hn)
    intro m hm
    obtain ⟨r, hr, rfl⟩ := List.mem_map.1 hm
    exact UInt64.lt_of_lt_of_le (sound.below r hr) (UInt64.le_iff_toNat_le.2 hle)
  refine ⟨events, by rw [heq], (hperm.nodup_iff.2 (Reconcile.nodup_difference sound
    meets.toProper hroom)), hmem, fun key hkey hnot => ?_, ?_, hgreater, fun n hboth => ?_⟩
  · obtain ⟨n, hfind⟩ := Reconcile.exists_findRelation?_target (g := g) place hkey
    rw [heq]
    exact ⟨n, hfind, (hperm.mem_iff.trans (Reconcile.mem_difference_iff sound reached _)).2
      ⟨key, hkey, hnot, hfind⟩⟩
  · rw [relationsAdded, hperm.countP_eq]
    exact Reconcile.relationsAdded_difference g f
  · obtain ⟨r, hr, hid, -⟩ := (hmem _).1 hboth.2
    exact absurd (hgreater n hboth.1 n (hid ▸ List.mem_map_of_mem hr)) (UInt64.lt_irrefl _)

/-- An argument goes with its attack, one gets a weight and one comes; the attack that stays loses
its weight, and a support comes. -/
theorem reconcile_tells_difference_mixed :
    let text := "arg(C).\narg(a,0.5).\natt(a,a).\nsupport(c,a,1)."
    let f : Framework :=
      ⟨[("c", none), ("a", some (1 / 2))], [(("a", "a"), none)], [(("c", "a"), some 1)]⟩
    let ops : List Operation := [.insertArgument { id := "A" }, .insertArgument { id := "b" },
      .insertRelation ⟨.attack, "b", "a"⟩ none, .insertRelation ⟨.attack, "a", "a"⟩ (some 1)]
    let place : Reconcile.Placement := fun n _ => gridPosition n
    (Description.parse {} text = .ok f ∧
      drawnBy {} (ops ++ [.reconcile f place]) < lastNumber) ∧
    ∃ events, ((run {} ops).reconcile f place).outcome = .ok events ∧ events.Nodup ∧
      events = [.relationRemoved ⟨1⟩, .argumentRemoved "b", .argumentAdded "c",
        .argumentUpdated "a", .relationUpdated ⟨2⟩, .relationAdded ⟨3⟩] := by
  intro text f ops place
  have accepted : Description.parse {} text = .ok f := by decide +kernel
  have room : drawnBy {} (ops ++ [.reconcile f place]) < lastNumber := by decide +kernel
  obtain ⟨events, hok, hnodup, -⟩ := reconcile_tells_difference {} text f accepted ops place room
  have hevents : ((run {} ops).reconcile f place).outcome = .ok [.relationRemoved ⟨1⟩,
      .argumentRemoved "b", .argumentAdded "c", .argumentUpdated "a", .relationUpdated ⟨2⟩,
      .relationAdded ⟨3⟩] := by decide +kernel
  exact ⟨⟨accepted, room⟩, events, hok, hnodup, Except.ok.inj (hok.symm.trans hevents)⟩

end Graph

end Argumentation
