import Argumentation.Proofs.Graph.Sound

/-!
# What changes of a graph do

For every change of a graph the cases in which it is refused and what it does otherwise,
as equations: `removeArgument_of_mem`, `renameArgument_of_ne` and so on.  Read the other
way they say all that a change can have done that is not refused: `removeArgument_inv`,
`renameArgument_inv` and so on.  Later proofs cite these and do not look into the changes.

After them comes what they are for: a change that is not refused keeps a sound graph sound.
-/

namespace Argumentation.Graph

variable {g g' : Graph}

/-! ## Arguments -/

section Arguments

variable {a : Argument} {id newId : String}

theorem insertArgument_of_mem (h : canonicalId a.id ∈ g.keys) :
    g.insertArgument a = .error (.duplicateArgument (canonicalId a.id)) := by
  rw [insertArgument, if_pos (hasKey_iff.2 h)]

theorem insertArgument_of_not_mem (h : canonicalId a.id ∉ g.keys) :
    g.insertArgument a =
      .ok ({ g with nodes := g.nodes ++ [⟨canonicalId a.id, { a with id := canonicalId a.id }⟩] },
        .argumentAdded (canonicalId a.id)) := by
  rw [insertArgument, if_neg (fun hk => h (hasKey_iff.1 hk))]

theorem keys_append_node (g : Graph) (n : Node) :
    keys { g with nodes := g.nodes ++ [n] } = g.keys ++ [n.key] := List.map_append

/-- The graph without an argument and its relations. -/
def without (g : Graph) (key : String) : Graph :=
  { g with
    nodes := g.nodes.filter (·.key ≠ key)
    relations := g.relations.filter (!touches key ·) }

theorem removeArgument_of_not_mem (h : canonicalId id ∉ g.keys) :
    g.removeArgument id = .error (missingArgument (canonicalId id)) := by
  rw [removeArgument, hasKey_eq_false_iff.2 h]
  rfl

theorem removeArgument_of_mem (h : canonicalId id ∈ g.keys) :
    g.removeArgument id = .ok (g.without (canonicalId id),
      (g.incident (canonicalId id)).map .relationRemoved ++
        [.argumentRemoved (canonicalId id)]) := by
  rw [removeArgument, hasKey_iff.2 h]
  rfl

/-- The graph in which an argument that is there has moved to the end under another
identifier. -/
def renamed (g : Graph) (n : Node) (new : String) : Graph :=
  { g with
    nodes := g.nodes.filter (·.key ≠ n.key) ++ [⟨new, { n.argument with id := new }⟩]
    relations := g.relations.map (renameEnds n.key new) }

theorem renameArgument_of_eq (h : canonicalId id = canonicalId newId) :
    g.renameArgument id newId = .ok (g, []) := by
  rw [renameArgument, if_pos h]

theorem renameArgument_of_mem (h : canonicalId id ≠ canonicalId newId)
    (hnew : canonicalId newId ∈ g.keys) :
    g.renameArgument id newId = .error (.duplicateArgument (canonicalId newId)) := by
  rw [renameArgument, if_neg h, if_pos (hasKey_iff.2 hnew)]

theorem find?_node_eq_none_iff {k : String} : g.nodes.find? (·.key = k) = none ↔ k ∉ g.keys := by
  simp [keys]

theorem renameArgument_of_not_mem (h : canonicalId id ≠ canonicalId newId)
    (hnew : canonicalId newId ∉ g.keys) (hold : canonicalId id ∉ g.keys) :
    g.renameArgument id newId = .error (missingArgument (canonicalId id)) := by
  rw [renameArgument, if_neg h, if_neg (fun hk => hnew (hasKey_iff.1 hk)),
    find?_node_eq_none_iff.2 hold]

/-- The node that is found by an identifier. -/
theorem exists_node_of_mem {k : String} (h : k ∈ g.keys) :
    ∃ n, g.nodes.find? (·.key = k) = some n ∧ n ∈ g.nodes ∧ n.key = k := by
  cases hf : g.nodes.find? (·.key = k) with
  | none => exact absurd h (find?_node_eq_none_iff.1 hf)
  | some n => exact ⟨n, rfl, List.mem_of_find?_eq_some hf, by simpa using List.find?_some hf⟩

theorem renameArgument_of_ne {n : Node} (h : canonicalId id ≠ canonicalId newId)
    (hnew : canonicalId newId ∉ g.keys) (hn : g.nodes.find? (·.key = canonicalId id) = some n) :
    g.renameArgument id newId = .ok (g.renamed n (canonicalId newId),
      .argumentRenamed (canonicalId id) (canonicalId newId) ::
        (g.incident (canonicalId id)).map .relationMoved) := by
  have hkey : n.key = canonicalId id := by simpa using List.find?_some hn
  rw [renameArgument, if_neg h, if_neg (fun hk => hnew (hasKey_iff.1 hk)), hn]
  simp only [renamed, hkey]

/-! ## Weights of arguments -/

/-- The weight that is kept when a weight is set: the old one if both are equal. -/
def settled (old new : Option Binary64) : Option Binary64 :=
  if Binary64.optionEq old new then old else new

theorem settled_of_eq {old new : Option Binary64} (h : Binary64.optionEq old new = true) :
    settled old new = old := if_pos h

theorem settled_of_ne {old new : Option Binary64} (h : Binary64.optionEq old new ≠ true) :
    settled old new = new := if_neg h

/-- The argument with its weight settled. -/
def weighNode (w : Option Binary64) (n : Node) : Node :=
  { n with argument := { n.argument with weight := settled n.argument.weight w } }

theorem argument?_eq_none_iff : g.argument? id = none ↔ canonicalId id ∉ g.keys := by
  rw [argument?, Option.map_eq_none_iff, find?_node_eq_none_iff]

/-- To set a weight changes nothing but the weight of the argument, and the event tells
whether that was changed. -/
theorem setArgumentWeight_of_find {w : Option Binary64} {n : Node}
    (hn : g.nodes.find? (·.key = canonicalId id) = some n) :
    g.setArgumentWeight id w =
      if Binary64.optionEq n.argument.weight w then (g, none)
      else (g.modifyArgument id fun a => { a with weight := w },
        some (.argumentUpdated n.argument.id)) := by
  rw [setArgumentWeight, argument?, hn]
  rfl

theorem setArgumentWeight_of_not_mem {w : Option Binary64} (h : canonicalId id ∉ g.keys) :
    g.setArgumentWeight id w = (g, none) := by
  rw [setArgumentWeight, argument?_eq_none_iff.2 h]

end Arguments

/-! ## Relations -/

section Relations

variable {key : RelationKey} {id : RelationId} {w : Option Binary64} {kind : RelationKind}

/-- The key with both ends in canonical form. -/
def canonicalKey (key : RelationKey) : RelationKey :=
  ⟨key.kind, canonicalId key.source, canonicalId key.target⟩

/-- The graph with a further relation, which has the next number. -/
def withRelation (g : Graph) (key : RelationKey) (w : Option Binary64) : Graph :=
  { g with
    relations := g.relations ++ [⟨g.counter.generate.1, key.source, key.target, key.kind, w⟩]
    counter := g.counter.generate.2 }

theorem relationKeys_withRelation (g : Graph) (key : RelationKey) (w : Option Binary64) :
    (g.withRelation key w).relationKeys = g.relationKeys ++ [key] := List.map_append

theorem insertRelation_of_source (h : canonicalId key.source ∉ g.keys) :
    g.insertRelation key w = .error (missingArgument (canonicalId key.source)) := by
  simp [insertRelation, hasKey_eq_false_iff.2 h]

theorem insertRelation_of_target (hs : canonicalId key.source ∈ g.keys)
    (h : canonicalId key.target ∉ g.keys) :
    g.insertRelation key w = .error (missingArgument (canonicalId key.target)) := by
  simp [insertRelation, hasKey_iff.2 hs, hasKey_eq_false_iff.2 h]

theorem insertRelation_of_mem (hs : canonicalId key.source ∈ g.keys)
    (ht : canonicalId key.target ∈ g.keys) (h : canonicalKey key ∈ g.relationKeys) :
    g.insertRelation key w = .error (.duplicateRelation (canonicalKey key).toText) := by
  have hf := isSome_findRelation?_iff.2 h
  unfold canonicalKey at hf
  simp [insertRelation, hasKey_iff.2 hs, hasKey_iff.2 ht, hf, canonicalKey]

theorem insertRelation_of_not_mem (hs : canonicalId key.source ∈ g.keys)
    (ht : canonicalId key.target ∈ g.keys) (h : canonicalKey key ∉ g.relationKeys) :
    g.insertRelation key w =
      .ok (g.withRelation (canonicalKey key) w, g.counter.generate.1) := by
  have hf := findRelation?_eq_none_iff.2 h
  unfold canonicalKey at hf
  simp [insertRelation, hasKey_iff.2 hs, hasKey_iff.2 ht, hf, canonicalKey, withRelation]

/-- A relation is refused or added under the next number. -/
theorem insertRelation_cases (g : Graph) (key : RelationKey) (w : Option Binary64) :
    (∃ e, g.insertRelation key w = .error e ∧
      (canonicalId key.source ∉ g.keys ∨ canonicalId key.target ∉ g.keys ∨
        canonicalKey key ∈ g.relationKeys)) ∨
    (g.insertRelation key w = .ok (g.withRelation (canonicalKey key) w, g.counter.generate.1) ∧
      canonicalId key.source ∈ g.keys ∧ canonicalId key.target ∈ g.keys ∧
        canonicalKey key ∉ g.relationKeys) := by
  by_cases hs : canonicalId key.source ∈ g.keys
  · by_cases ht : canonicalId key.target ∈ g.keys
    · by_cases hk : canonicalKey key ∈ g.relationKeys
      · exact Or.inl ⟨_, insertRelation_of_mem hs ht hk, Or.inr (Or.inr hk)⟩
      · exact Or.inr ⟨insertRelation_of_not_mem hs ht hk, hs, ht, hk⟩
    · exact Or.inl ⟨_, insertRelation_of_target hs ht, Or.inr (Or.inl ht)⟩
  · exact Or.inl ⟨_, insertRelation_of_source hs, Or.inl hs⟩

theorem removeRelation_of_none (h : g.relation? id = none) :
    g.removeRelation id = .error (missingRelation id) := by
  rw [removeRelation, h]

theorem removeRelation_of_some {r : Relation} (h : g.relation? id = some r) :
    g.removeRelation id =
      .ok ({ g with relations := g.relations.filter (·.id ≠ id) }, .relationRemoved id) := by
  rw [removeRelation, h]

/-- The relation with its weight settled. -/
def weighRelation (w : Option Binary64) (r : Relation) : Relation :=
  { r with weight := settled r.weight w }

theorem setRelationWeight_of_none (h : g.relation? id = none) :
    g.setRelationWeight id w = (g, none) := by
  rw [setRelationWeight, h]

theorem setRelationWeight_of_some {r : Relation} (h : g.relation? id = some r) :
    g.setRelationWeight id w =
      if Binary64.optionEq r.weight w then (g, none)
      else (g.modifyRelation id fun r => { r with weight := w }, some (.relationUpdated id)) := by
  rw [setRelationWeight, h]

theorem setRelationKind_of_none (h : g.relation? id = none) :
    g.setRelationKind id kind = .error (missingRelation id) := by
  rw [setRelationKind, h]

theorem setRelationKind_of_eq {r : Relation} (h : g.relation? id = some r) (hk : r.kind = kind) :
    g.setRelationKind id kind = .ok (g, none) := by
  rw [setRelationKind, h]
  exact if_pos hk

theorem setRelationKind_of_mem {r : Relation} (h : g.relation? id = some r) (hk : r.kind ≠ kind)
    (hm : ⟨kind, r.source, r.target⟩ ∈ g.relationKeys) :
    g.setRelationKind id kind =
      .error (.duplicateRelation (RelationKey.mk kind r.source r.target).toText) := by
  rw [setRelationKind, h]
  simp only
  rw [if_neg hk, if_pos (isSome_findRelation?_iff.2 hm)]

theorem setRelationKind_of_not_mem {r : Relation} (h : g.relation? id = some r)
    (hk : r.kind ≠ kind) (hm : ⟨kind, r.source, r.target⟩ ∉ g.relationKeys) :
    g.setRelationKind id kind =
      .ok (g.modifyRelation id fun r => { r with kind }, some (.relationUpdated id)) := by
  rw [setRelationKind, h]
  simp only
  rw [if_neg hk, if_neg (fun hs => hm (isSome_findRelation?_iff.1 hs))]

/-- The relation the other way round. -/
def turned (r : Relation) : Relation := { r with source := r.target, target := r.source }

theorem reverseRelation_of_none (h : g.relation? id = none) :
    g.reverseRelation id = .error (missingRelation id) := by
  rw [reverseRelation, h]

theorem reverseRelation_of_free {r : Relation} (h : g.relation? id = some r)
    (hfree : ∀ other, g.findRelation? r.key.reverse = some other → other = id) :
    g.reverseRelation id = .ok (g.modifyRelation id turned, .relationMoved id) := by
  rw [reverseRelation, h]
  simp only
  cases hf : g.findRelation? r.key.reverse with
  | none => rfl
  | some other =>
    simp only
    rw [if_pos (hfree other hf)]
    rfl

theorem reverseRelation_of_taken {r : Relation} {other : RelationId} (h : g.relation? id = some r)
    (ho : g.findRelation? r.key.reverse = some other) (hne : other ≠ id) :
    g.reverseRelation id = .error (.duplicateRelation r.key.reverse.toText) := by
  rw [reverseRelation, h]
  simp only
  rw [ho]
  exact if_neg hne

end Relations

/-! ## Changes that are taken -/

section Inversion

variable {a : Argument} {id newId : String} {e : Event} {es : List Event} {key : RelationKey}
  {number : RelationId} {kind : RelationKind}

theorem insertArgument_inv (h : g.insertArgument a = .ok (g', e)) :
    canonicalId a.id ∉ g.keys ∧
      g' = { g with
        nodes := g.nodes ++ [⟨canonicalId a.id, { a with id := canonicalId a.id }⟩] } ∧
      e = .argumentAdded (canonicalId a.id) := by
  by_cases hmem : canonicalId a.id ∈ g.keys
  · rw [insertArgument_of_mem hmem] at h
    cases h
  · rw [insertArgument_of_not_mem hmem] at h
    cases h
    exact ⟨hmem, rfl, rfl⟩

theorem removeArgument_inv (h : g.removeArgument id = .ok (g', es)) :
    canonicalId id ∈ g.keys ∧ g' = g.without (canonicalId id) ∧
      es = (g.incident (canonicalId id)).map .relationRemoved ++
        [.argumentRemoved (canonicalId id)] := by
  by_cases hmem : canonicalId id ∈ g.keys
  · rw [removeArgument_of_mem hmem] at h
    cases h
    exact ⟨hmem, rfl, rfl⟩
  · rw [removeArgument_of_not_mem hmem] at h
    cases h

theorem renameArgument_inv (h : g.renameArgument id newId = .ok (g', es)) :
    (canonicalId id = canonicalId newId ∧ g' = g ∧ es = []) ∨
      ∃ n ∈ g.nodes, n.key = canonicalId id ∧ canonicalId newId ∉ g.keys ∧
        g' = g.renamed n (canonicalId newId) ∧
        es = .argumentRenamed (canonicalId id) (canonicalId newId) ::
          (g.incident (canonicalId id)).map .relationMoved := by
  by_cases heq : canonicalId id = canonicalId newId
  · rw [renameArgument_of_eq heq] at h
    cases h
    exact Or.inl ⟨heq, rfl, rfl⟩
  · by_cases hnew : canonicalId newId ∈ g.keys
    · rw [renameArgument_of_mem heq hnew] at h
      cases h
    · by_cases hold : canonicalId id ∈ g.keys
      · obtain ⟨n, hfind, hn, hkey⟩ := exists_node_of_mem hold
        rw [renameArgument_of_ne heq hnew hfind] at h
        cases h
        exact Or.inr ⟨n, hn, hkey, hnew, rfl, rfl⟩
      · rw [renameArgument_of_not_mem heq hnew hold] at h
        cases h

theorem setArgumentWeight_cases (g : Graph) (id : String) (w : Option Binary64) :
    g.setArgumentWeight id w = (g, none) ∨
      ∃ a, g.setArgumentWeight id w = (g.modifyArgument id fun a => { a with weight := w },
        some (.argumentUpdated a)) := by
  unfold setArgumentWeight
  split
  · exact Or.inl rfl
  · split
    · exact Or.inl rfl
    · exact Or.inr ⟨_, rfl⟩

theorem insertRelation_inv {w : Option Binary64} (h : g.insertRelation key w = .ok (g', number)) :
    canonicalId key.source ∈ g.keys ∧ canonicalId key.target ∈ g.keys ∧
      canonicalKey key ∉ g.relationKeys ∧ g' = g.withRelation (canonicalKey key) w ∧
      number = g.counter.generate.1 := by
  rcases insertRelation_cases g key w with ⟨err, herr, -⟩ | ⟨hok, hs, ht, hnew⟩
  · rw [herr] at h
    cases h
  · rw [hok] at h
    cases h
    exact ⟨hs, ht, hnew, rfl, rfl⟩

theorem removeRelation_inv (h : g.removeRelation number = .ok (g', e)) :
    ∃ r, g.relation? number = some r ∧
      g' = { g with relations := g.relations.filter (·.id ≠ number) } ∧
      e = .relationRemoved number := by
  cases hr : g.relation? number with
  | none =>
    rw [removeRelation_of_none hr] at h
    cases h
  | some r =>
    rw [removeRelation_of_some hr] at h
    cases h
    exact ⟨r, rfl, rfl, rfl⟩

theorem setRelationWeight_cases (g : Graph) (number : RelationId) (w : Option Binary64) :
    g.setRelationWeight number w = (g, none) ∨
      ∃ r, g.relation? number = some r ∧
        g.setRelationWeight number w = (g.modifyRelation number fun r => { r with weight := w },
          some (.relationUpdated number)) := by
  cases hr : g.relation? number with
  | none => exact Or.inl (setRelationWeight_of_none hr)
  | some r =>
    rw [setRelationWeight_of_some hr]
    split
    · exact Or.inl rfl
    · exact Or.inr ⟨r, rfl, rfl⟩

theorem setRelationKind_inv {event : Option Event}
    (h : g.setRelationKind number kind = .ok (g', event)) :
    ∃ r, g.relation? number = some r ∧ ((r.kind = kind ∧ g' = g ∧ event = none) ∨
      (r.kind ≠ kind ∧ ⟨kind, r.source, r.target⟩ ∉ g.relationKeys ∧
        g' = g.modifyRelation number (fun r => { r with kind }) ∧
        event = some (.relationUpdated number))) := by
  cases hr : g.relation? number with
  | none =>
    rw [setRelationKind_of_none hr] at h
    cases h
  | some r =>
    by_cases hkind : r.kind = kind
    · rw [setRelationKind_of_eq hr hkind] at h
      cases h
      exact ⟨r, rfl, Or.inl ⟨hkind, rfl, rfl⟩⟩
    · by_cases hmem : ⟨kind, r.source, r.target⟩ ∈ g.relationKeys
      · rw [setRelationKind_of_mem hr hkind hmem] at h
        cases h
      · rw [setRelationKind_of_not_mem hr hkind hmem] at h
        cases h
        exact ⟨r, rfl, Or.inr ⟨hkind, hmem, rfl, rfl⟩⟩

theorem reverseRelation_inv (h : g.reverseRelation number = .ok (g', e)) :
    ∃ r, g.relation? number = some r ∧
      (∀ other, g.findRelation? r.key.reverse = some other → other = number) ∧
      g' = g.modifyRelation number turned ∧ e = .relationMoved number := by
  cases hr : g.relation? number with
  | none =>
    rw [reverseRelation_of_none hr] at h
    cases h
  | some r =>
    by_cases hfree : ∀ other, g.findRelation? r.key.reverse = some other → other = number
    · rw [reverseRelation_of_free hr hfree] at h
      cases h
      exact ⟨r, rfl, hfree, rfl, rfl⟩
    · obtain ⟨other, hother⟩ := Classical.not_forall.1 hfree
      obtain ⟨hfound, hne⟩ := Classical.not_imp.1 hother
      rw [reverseRelation_of_taken hr hfound hne] at h
      cases h

end Inversion

/-! ## What stays sound -/

theorem keys_without (g : Graph) (key : String) :
    (g.without key).keys = g.keys.filter (· ≠ key) := by
  simp [keys, without, List.filter_map, Function.comp_def]

theorem keys_renamed (g : Graph) (n : Node) (new : String) :
    (g.renamed n new).keys = g.keys.filter (· ≠ n.key) ++ [new] := by
  simp [keys, renamed, List.filter_map, Function.comp_def]

/-- Keys that do not name the new identifier stay different. -/
theorem renameEnds_key_inj {old new : String} {q r : Relation}
    (hq : q.source ≠ new ∧ q.target ≠ new) (hr : r.source ≠ new ∧ r.target ≠ new)
    (h : (renameEnds old new q).key = (renameEnds old new r).key) : q.key = r.key := by
  have hend {a b : String} (ha : a ≠ new) (hb : b ≠ new)
      (hab : (if a = old then new else a) = if b = old then new else b) : a = b := by
    by_cases hao : a = old
    · by_cases hbo : b = old
      · rw [hao, hbo]
      · rw [if_pos hao, if_neg hbo] at hab
        exact absurd hab.symm hb
    · by_cases hbo : b = old
      · rw [if_neg hao, if_pos hbo] at hab
        exact absurd hab ha
      · rwa [if_neg hao, if_neg hbo] at hab
  simp only [Relation.key, renameEnds, RelationKey.mk.injEq] at h ⊢
  exact ⟨h.1, hend hq.1 hr.1 h.2.1, hend hq.2 hr.2 h.2.2⟩

/-- Nothing names the old identifier any more. -/
theorem ends_renameEnds {old new : String} (hne : old ≠ new) (r : Relation) :
    (renameEnds old new r).source ≠ old ∧ (renameEnds old new r).target ≠ old := by
  have hend (k : String) : (if k = old then new else k) ≠ old := by
    split
    · exact hne.symm
    · assumption
  exact ⟨hend r.source, hend r.target⟩

theorem renameEnds_of_not_touches {old new : String} {r : Relation} (h : touches old r = false) :
    renameEnds old new r = r := by
  rw [touches, Bool.or_eq_false_iff, decide_eq_false_iff_not, decide_eq_false_iff_not] at h
  rw [renameEnds, if_neg h.1, if_neg h.2]

theorem greatest_foldl (ids : List RelationId) (m : UInt64) :
    (∀ id ∈ ids, id.number ≤ ids.foldl (fun m id => if m < id.number then id.number else m) m) ∧
      m ≤ ids.foldl (fun m id => if m < id.number then id.number else m) m ∧
      (ids.foldl (fun m id => if m < id.number then id.number else m) m = m ∨
        ∃ id ∈ ids, ids.foldl (fun m id => if m < id.number then id.number else m) m = id.number) := by
  induction ids generalizing m with
  | nil => exact ⟨fun id h => absurd h List.not_mem_nil, UInt64.le_refl m, Or.inl rfl⟩
  | cons id ids ih =>
    rw [List.foldl_cons]
    obtain ⟨hall, hle, hmem⟩ := ih (if m < id.number then id.number else m)
    have hid : id.number ≤ if m < id.number then id.number else m := by
      split
      · exact UInt64.le_refl _
      · next h => exact UInt64.not_lt.1 h
    have hm : m ≤ if m < id.number then id.number else m := by
      split
      · next h => exact UInt64.le_of_lt h
      · exact UInt64.le_refl _
    refine ⟨?_, UInt64.le_trans hm hle, ?_⟩
    · intro other hother
      rcases List.mem_cons.1 hother with rfl | hother
      · exact UInt64.le_trans hid hle
      · exact hall other hother
    · rcases hmem with heq | ⟨other, hother, heq⟩
      · rw [heq]
        by_cases h : m < id.number
        · rw [if_pos h]
          exact Or.inr ⟨id, List.mem_cons_self, rfl⟩
        · rw [if_neg h]
          exact Or.inl rfl
      · exact Or.inr ⟨other, List.mem_cons_of_mem _ hother, heq⟩

theorem le_greatest {ids : List RelationId} {id : RelationId} (h : id ∈ ids) :
    id.number ≤ RelationCounter.greatest ids := (greatest_foldl ids 0).1 id h

theorem greatest_eq_zero_or_mem (ids : List RelationId) :
    RelationCounter.greatest ids = 0 ∨ ∃ id ∈ ids, RelationCounter.greatest ids = id.number :=
  (greatest_foldl ids 0).2.2

namespace Keyed

variable (keyed : g.Keyed)
include keyed

theorem of_nodes (h : g'.nodes = g.nodes) : g'.Keyed := by
  have hkeys : g'.keys = g.keys := congrArg (List.map Node.key) h
  exact ⟨h ▸ keyed.keyed, hkeys ▸ keyed.canonical, hkeys ▸ keyed.nodup⟩

/-- A node is added under a new canonical identifier. -/
theorem append_node {n : Node} (hid : n.argument.id = n.key) (hcanonical : IsCanonical n.key)
    (hnew : n.key ∉ g.keys) : Keyed { g with nodes := g.nodes ++ [n] } := by
  refine ⟨fun m hm => ?_, fun k hk => ?_, ?_⟩
  · cases List.mem_append.1 hm with
    | inl hold => exact keyed.keyed m hold
    | inr hm => rw [List.mem_singleton.1 hm, hid]
  · rw [keys_append_node] at hk
    cases List.mem_append.1 hk with
    | inl hold => exact keyed.canonical k hold
    | inr hk => rwa [List.mem_singleton.1 hk]
  · rw [keys_append_node]
    exact List.nodup_append.2 ⟨keyed.nodup, List.nodup_singleton _, fun k hk l hl heq =>
      hnew (by rwa [heq, List.mem_singleton.1 hl] at hk)⟩

theorem filter_nodes (stays : Node → Bool) : Keyed { g with nodes := g.nodes.filter stays } :=
  ⟨fun n hn => keyed.keyed n (List.mem_of_mem_filter hn),
    fun k hk => keyed.canonical k ((List.filter_sublist.map _).mem hk),
    keyed.nodup.sublist (List.filter_sublist.map _)⟩

/-- An argument that is renamed goes and comes again under its new identifier. -/
theorem renamed (n : Node) {new : String} (hcanonical : IsCanonical new) (hnew : new ∉ g.keys) :
    (g.renamed n new).Keyed := by
  let again : Node := ⟨new, { n.argument with id := new }⟩
  have hothers := keyed.filter_nodes (·.key ≠ n.key)
  have hfree : again.key ∉ Graph.keys { g with nodes := g.nodes.filter (·.key ≠ n.key) } :=
    fun hk => hnew ((List.filter_sublist.map _).mem hk)
  exact (hothers.append_node (n := again) rfl hcanonical hfree).of_nodes rfl

end Keyed

namespace Sound

variable (sound : g.Sound)
include sound

/-- A node is added under a new canonical identifier. -/
theorem append_node {n : Node} (hid : n.argument.id = n.key) (hcanonical : IsCanonical n.key)
    (hnew : n.key ∉ g.keys) : Sound { g with nodes := g.nodes ++ [n] } := by
  obtain ⟨keyed, canonical, nodup⟩ := sound.toKeyed.append_node hid hcanonical hnew
  refine ⟨keyed, canonical, nodup, ?_, sound.nodup_relationKeys, sound.increasing, sound.below⟩
  intro r hr
  rw [keys_append_node]
  exact ⟨List.mem_append_left _ (sound.joined r hr).1, List.mem_append_left _ (sound.joined r hr).2⟩

/-- Arguments and relations may go, as long as no relation loses an end. -/
theorem filter (stays : String → Bool) (linked : Relation → Bool)
    (hends : ∀ r ∈ g.relations, linked r = true →
      stays r.source = true ∧ stays r.target = true) :
    Sound { g with
      nodes := g.nodes.filter (stays ·.key)
      relations := g.relations.filter linked } := by
  have hkeys : Graph.keys { g with
      nodes := g.nodes.filter (stays ·.key)
      relations := g.relations.filter linked } = g.keys.filter stays := by
    simp [keys, List.filter_map, Function.comp_def]
  obtain ⟨keyed, canonical, nodup⟩ := sound.toKeyed.filter_nodes (stays ·.key)
  refine ⟨keyed, canonical, nodup, ?_, ?_, ?_, ?_⟩
  · intro r hr
    obtain ⟨hmem, hlinked⟩ := List.mem_filter.1 hr
    obtain ⟨hs, ht⟩ := sound.joined r hmem
    obtain ⟨hstays, htays⟩ := hends r hmem hlinked
    rw [hkeys]
    exact ⟨List.mem_filter.2 ⟨hs, hstays⟩, List.mem_filter.2 ⟨ht, htays⟩⟩
  · exact sound.nodup_relationKeys.sublist (List.filter_sublist.map _)
  · exact sound.increasing.sublist List.filter_sublist
  · exact fun r hr => sound.below r (List.mem_of_mem_filter hr)

/-- Relations may go. -/
theorem filter_relations (linked : Relation → Bool) :
    Sound { g with relations := g.relations.filter linked } := by
  have hsound := sound.filter (fun _ => true) linked fun _ _ _ => ⟨rfl, rfl⟩
  rwa [List.filter_true] at hsound

/-- An argument may go together with its relations. -/
theorem without (key : String) : (g.without key).Sound := by
  refine sound.filter (· ≠ key) (!touches key ·) fun r _ htouch => ?_
  rw [touches, Bool.not_eq_true', Bool.or_eq_false_iff] at htouch
  simpa using htouch

/-- No relation names an argument that is not there. -/
theorem ends_ne {new : String} (hnew : new ∉ g.keys) {r : Relation} (hr : r ∈ g.relations) :
    r.source ≠ new ∧ r.target ≠ new := by
  obtain ⟨hs, ht⟩ := sound.joined r hr
  exact ⟨fun heq => hnew (heq ▸ hs), fun heq => hnew (heq ▸ ht)⟩

/-- An argument may go by another canonical identifier that nobody has. -/
theorem renamed (n : Node) {new : String} (hcanonical : IsCanonical new)
    (hnew : new ∉ g.keys) : (g.renamed n new).Sound := by
  obtain ⟨keyed, canonical, nodup⟩ := sound.toKeyed.renamed n hcanonical hnew
  refine ⟨keyed, canonical, nodup, ?_, ?_, ?_, ?_⟩
  · intro r hr
    obtain ⟨q, hq, rfl⟩ := List.mem_map.1 hr
    have hmem {k : String} (hk : k ∈ g.keys) :
        (if k = n.key then new else k) ∈ (g.renamed n new).keys := by
      rw [keys_renamed]
      by_cases hkn : k = n.key
      · rw [if_pos hkn]
        exact List.mem_append_right _ (List.mem_singleton.2 rfl)
      · rw [if_neg hkn]
        exact List.mem_append_left _ (List.mem_filter.2 ⟨hk, by simpa using hkn⟩)
    exact ⟨hmem (sound.joined q hq).1, hmem (sound.joined q hq).2⟩
  · have hpair := List.pairwise_map.1 sound.nodup_relationKeys
    rw [relationKeys, Graph.renamed, List.map_map]
    refine List.pairwise_map.2 (hpair.imp_of_mem fun hq hr hne heq => hne ?_)
    exact renameEnds_key_inj (sound.ends_ne hnew hq) (sound.ends_ne hnew hr) heq
  · exact List.pairwise_map.2 sound.increasing
  · intro r hr
    obtain ⟨q, hq, rfl⟩ := List.mem_map.1 hr
    exact sound.below q hq

/-- To rename the relations of an argument is to rename all of them. -/
theorem map_incident_renameEnds {old : String} (hmem : old ∈ g.keys) (new : String) :
    (g.relations.map fun r => if r.id ∈ g.incident old then renameEnds old new r else r) =
      g.relations.map (renameEnds old new) := by
  refine List.map_congr_left fun r hr => ?_
  have htouches : r.id ∈ g.incident old ↔ touches (canonicalId old) r = true :=
    sound.mem_incident_iff hr
  rw [sound.canonical_eq hmem] at htouches
  split
  · rfl
  · next hfree =>
    rw [htouches, Bool.not_eq_true] at hfree
    exact (renameEnds_of_not_touches hfree).symm

/-- A relation may come while the counter is not at its end. -/
theorem withRelation {key : RelationKey} {w : Option Binary64} (hs : key.source ∈ g.keys)
    (ht : key.target ∈ g.keys) (hnew : key ∉ g.relationKeys)
    (room : g.counter.next.toNat < lastNumber) : (g.withRelation key w).Sound := by
  have hnext : g.counter.next < g.counter.next + 1 := by
    rw [UInt64.lt_iff_toNat_lt, UInt64.toNat_add]
    unfold lastNumber UInt64.size at room
    simp only [UInt64.toNat_one]
    omega
  refine ⟨sound.keyed, sound.canonical, sound.nodup_keys, ?_, ?_, ?_, ?_⟩
  · intro r hr
    rcases List.mem_append.1 hr with hr | hr
    · exact sound.joined r hr
    · rw [List.mem_singleton.1 hr]
      exact ⟨hs, ht⟩
  · rw [relationKeys, Graph.withRelation, List.map_append]
    refine List.nodup_append.2 ⟨sound.nodup_relationKeys, List.nodup_singleton _,
      fun k hk l hl heq => hnew ?_⟩
    rw [heq, List.mem_singleton.1 hl] at hk
    exact hk
  · refine List.pairwise_append.2 ⟨sound.increasing, List.pairwise_singleton _ _, ?_⟩
    intro q hq r hr
    rw [List.mem_singleton.1 hr]
    exact sound.below q hq
  · intro r hr
    rcases List.mem_append.1 hr with hr | hr
    · exact UInt64.lt_trans (sound.below r hr) hnext
    · rw [List.mem_singleton.1 hr]
      exact hnext

/-- Only what becomes of the relation itself counts. -/
theorem modifyRelation_congr {r : Relation} (hr : r ∈ g.relations) (f f' : Relation → Relation)
    (h : f r = f' r) : g.modifyRelation r.id f = g.modifyRelation r.id f' := by
  unfold Graph.modifyRelation
  congr 1
  refine List.map_congr_left fun q hq => ?_
  split
  · next hid => rw [sound.eq_of_id_eq hq hr hid, h]
  · rfl

/-- A relation may change what it says to what no other relation says. -/
theorem modifyRelation {id : RelationId} {f : Relation → Relation}
    (hid : ∀ r, (f r).id = r.id)
    (hends : ∀ r ∈ g.relations, r.id = id → (f r).source ∈ g.keys ∧ (f r).target ∈ g.keys)
    (hfree : ∀ r ∈ g.relations, r.id = id → ∀ q ∈ g.relations, q.id ≠ id → q.key ≠ (f r).key) :
    (g.modifyRelation id f).Sound := by
  refine ⟨sound.keyed, sound.canonical, sound.nodup_keys, ?_, ?_, ?_, ?_⟩
  · intro r hr
    obtain ⟨q, hq, rfl⟩ := List.mem_map.1 hr
    by_cases h : q.id = id
    · rw [if_pos h]
      exact hends q hq h
    · rw [if_neg h]
      exact sound.joined q hq
  · have hpair := List.pairwise_map.1 sound.nodup_relationKeys
    rw [relationKeys, Graph.modifyRelation, List.map_map]
    refine List.pairwise_map.2 ((hpair.and sound.increasing).imp_of_mem ?_)
    rintro q r hq hr ⟨hne, hlt⟩
    have hids : q.id ≠ r.id := fun h => absurd hlt (by rw [h]; exact UInt64.lt_irrefl _)
    simp only [Function.comp_apply]
    by_cases hqid : q.id = id
    · rw [if_pos hqid, if_neg (fun h => hids (hqid.trans h.symm))]
      exact (hfree q hq hqid r hr (fun h => hids (hqid.trans h.symm))).symm
    · by_cases hrid : r.id = id
      · rw [if_neg hqid, if_pos hrid]
        exact hfree r hr hrid q hq hqid
      · rwa [if_neg hqid, if_neg hrid]
  · refine List.pairwise_map.2 (sound.increasing.imp fun hlt => ?_)
    have hsame (r : Relation) : (if r.id = id then f r else r).id = r.id := by
      split
      · exact hid r
      · rfl
    rwa [hsame, hsame]
  · intro r hr
    obtain ⟨q, hq, rfl⟩ := List.mem_map.1 hr
    by_cases h : q.id = id
    · rw [if_pos h, hid]
      exact sound.below q hq
    · rw [if_neg h]
      exact sound.below q hq

/-- The greatest number is below the counter. -/
theorem greatest_lt (h : g.relations ≠ []) :
    RelationCounter.greatest g.relationIds < g.counter.next := by
  rcases greatest_eq_zero_or_mem g.relationIds with heq | ⟨id, hid, heq⟩
  · obtain ⟨r, hr⟩ := List.exists_mem_of_ne_nil _ h
    rw [heq]
    exact UInt64.lt_of_le_of_lt UInt64.zero_le (sound.below r hr)
  · obtain ⟨r, hr, rfl⟩ := List.mem_map.1 hid
    rw [heq]
    exact sound.below r hr

/-- A counter that is set anew goes on behind the greatest number, and from one if there
is none. -/
theorem toNat_next_reseed :
    g.reseed.counter.next.toNat = (RelationCounter.greatest g.relationIds).toNat + 1 := by
  change (RelationCounter.greatest g.relationIds + 1).toNat = _
  rw [UInt64.toNat_add]
  by_cases h : g.relations = []
  · simp [relationIds, h, RelationCounter.greatest]
  · have hlt := UInt64.lt_iff_toNat_lt.1 (sound.greatest_lt h)
    have hnext := g.counter.next.toNat_lt
    simp only [UInt64.toNat_one]
    omega

theorem next_reseed_le : g.reseed.counter.next.toNat ≤ max 1 g.counter.next.toNat := by
  rw [sound.toNat_next_reseed]
  by_cases h : g.relations = []
  · have hzero : RelationCounter.greatest g.relationIds = 0 := by
      simp [relationIds, h, RelationCounter.greatest]
    rw [hzero]
    exact Nat.le_max_left _ _
  · have hlt := UInt64.lt_iff_toNat_lt.1 (sound.greatest_lt h)
    omega

theorem reseed : g.reseed.Sound := by
  refine ⟨sound.keyed, sound.canonical, sound.nodup_keys, sound.joined, sound.nodup_relationKeys,
    sound.increasing, ?_⟩
  intro r hr
  have hle : r.id.number ≤ RelationCounter.greatest g.relationIds :=
    le_greatest (List.mem_map_of_mem hr)
  rw [UInt64.lt_iff_toNat_lt]
  rw [UInt64.le_iff_toNat_le] at hle
  have hnext := sound.toNat_next_reseed
  omega

/-! ## Weights that are set

To set a weight is to go through all arguments, or all relations, and to settle the weight
of the one that is meant. -/

theorem setArgumentWeight_eq {id : String} (hid : IsCanonical id) (w : Option Binary64) :
    (g.setArgumentWeight id w).1 =
      { g with nodes := g.nodes.map fun n => if n.key = id then weighNode w n else n } := by
  by_cases hmem : canonicalId id ∈ g.keys
  · obtain ⟨n, hn, hnmem, hkey⟩ := exists_node_of_mem hmem
    have hmeant (m : Node) (hm : m ∈ g.nodes) (hmkey : m.key = id) : m = n :=
      sound.eq_of_node_key_eq hm hnmem (by rw [hmkey, hkey, hid])
    rw [setArgumentWeight_of_find hn]
    by_cases heq : Binary64.optionEq n.argument.weight w = true
    · have hmap : (g.nodes.map fun n => if n.key = id then weighNode w n else n) = g.nodes := by
        refine (List.map_congr_left fun m hm => ?_).trans (List.map_id _)
        by_cases hmkey : m.key = id
        · rw [if_pos hmkey, hmeant m hm hmkey, weighNode, settled_of_eq heq]
          rfl
        · rw [if_neg hmkey]
          rfl
      rw [if_pos heq, hmap]
    · have hmap : (g.nodes.map fun n => if n.key = id then weighNode w n else n) =
          (g.modifyArgument id fun a => { a with weight := w }).nodes := by
        rw [modifyArgument, hid]
        refine List.map_congr_left fun m hm => ?_
        by_cases hmkey : m.key = id
        · rw [if_pos hmkey, if_pos hmkey, weighNode, hmeant m hm hmkey, settled_of_ne heq]
        · rw [if_neg hmkey, if_neg hmkey]
      rw [if_neg heq, hmap]
      rfl
  · have hmap : (g.nodes.map fun n => if n.key = id then weighNode w n else n) = g.nodes := by
      refine (List.map_congr_left fun m hm => ?_).trans (List.map_id _)
      have hmkey : m.key ≠ id := by
        intro heq
        rw [hid, ← heq] at hmem
        exact hmem (List.mem_map_of_mem hm)
      rw [if_neg hmkey]
      rfl
    rw [setArgumentWeight_of_not_mem hmem, hmap]

theorem setRelationWeight_eq (id : RelationId) (w : Option Binary64) :
    (g.setRelationWeight id w).1 =
      { g with relations := g.relations.map fun r => if r.id = id then weighRelation w r else r } := by
  cases hr : g.relation? id with
  | none =>
    have hmap : (g.relations.map fun r => if r.id = id then weighRelation w r else r) =
        g.relations := by
      refine (List.map_congr_left fun q hq => ?_).trans (List.map_id _)
      rw [if_neg (relation?_eq_none_iff.1 hr q hq)]
      rfl
    rw [setRelationWeight_of_none hr, hmap]
  | some r =>
    obtain ⟨hmem, hid⟩ := mem_of_relation? hr
    have hmeant (q : Relation) (hq : q ∈ g.relations) (hqid : q.id = id) : q = r :=
      sound.eq_of_id_eq hq hmem (hqid.trans hid.symm)
    rw [setRelationWeight_of_some hr]
    by_cases heq : Binary64.optionEq r.weight w = true
    · have hmap : (g.relations.map fun r => if r.id = id then weighRelation w r else r) =
          g.relations := by
        refine (List.map_congr_left fun q hq => ?_).trans (List.map_id _)
        by_cases hqid : q.id = id
        · rw [if_pos hqid, hmeant q hq hqid, weighRelation, settled_of_eq heq]
          rfl
        · rw [if_neg hqid]
          rfl
      rw [if_pos heq, hmap]
    · have hmap : (g.relations.map fun r => if r.id = id then weighRelation w r else r) =
          (g.modifyRelation id fun r => { r with weight := w }).relations := by
        refine List.map_congr_left fun q hq => ?_
        by_cases hqid : q.id = id
        · rw [if_pos hqid, if_pos hqid, weighRelation, hmeant q hq hqid, settled_of_ne heq]
        · rw [if_neg hqid, if_neg hqid]
      rw [if_neg heq, hmap]
      rfl

end Sound

end Argumentation.Graph
