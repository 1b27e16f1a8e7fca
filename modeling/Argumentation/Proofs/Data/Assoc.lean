import Argumentation.Data.Assoc
import Mathlib.Data.List.Induction
import Mathlib.Data.List.Perm.Subperm
import Mathlib.Logic.Function.Basic

/-!
# Entries, and lists that hold the same ones

When every key of a list occurs once, a key has a value if and only if the pair of the
two is an entry (`get?_eq_some_iff`).  Two such lists hold the same entries if and only if
every key has the same value in both, or none in both (`sameEntries_iff`), so the order of
the entries has no part in the comparison.

What is found after entries were added, left out or changed is said by `get?_concat`,
`get?_filter`, `get?_map_value`, `get?_map_key` and `get?_replace`.
-/

namespace Argumentation.Assoc

/-! ## Entries -/

section Entries

variable {κ β : Type} {l : Assoc κ β} {k : κ} {v : β}

@[simp] theorem keys_nil : keys ([] : Assoc κ β) = [] := rfl

@[simp] theorem keys_cons (e : κ × β) (l : Assoc κ β) : keys (e :: l) = e.1 :: keys l := rfl

@[simp] theorem keys_append (l m : Assoc κ β) : keys (l ++ m) = keys l ++ keys m :=
  List.map_append

theorem mem_keys_of_mem (h : (k, v) ∈ l) : k ∈ l.keys := List.mem_map_of_mem h

end Entries

variable {κ β : Type} [DecidableEq κ] {l m : Assoc κ β} {k : κ} {v : β}

theorem mem_of_get? (h : l.get? k = some v) : (k, v) ∈ l := by
  obtain ⟨e, he, rfl⟩ := Option.map_eq_some_iff.1 h
  have hkey : e.1 = k := by simpa using List.find?_some he
  rw [← hkey]
  exact List.mem_of_find?_eq_some he

theorem get?_eq_none_iff : l.get? k = none ↔ k ∉ l.keys := by
  simp only [get?, keys, Option.map_eq_none_iff, List.find?_eq_none, decide_eq_true_eq,
    List.mem_map, not_exists, not_and]

/-- A key that occurs once has the value that it occurs with. -/
theorem get?_eq_some_iff (h : l.keys.Nodup) : l.get? k = some v ↔ (k, v) ∈ l := by
  refine ⟨mem_of_get?, fun hmem => ?_⟩
  induction l with
  | nil => cases hmem
  | cons e l ih =>
    rw [keys_cons, List.nodup_cons] at h
    rw [get?_cons]
    cases List.mem_cons.1 hmem with
    | inl heq => rw [← heq, if_pos rfl]
    | inr hmem =>
      have hne : e.1 ≠ k := by
        intro heq
        exact h.1 (heq ▸ mem_keys_of_mem hmem)
      rw [if_neg hne]
      exact ih h.2 hmem

/-- An entry whose key occurs once is found by its key. -/
theorem find?_of_mem {e : κ × β} (nodup : l.keys.Nodup) (h : e ∈ l) :
    l.find? (·.1 = e.1) = some e := by
  have hget : l.get? e.1 = some e.2 := (get?_eq_some_iff nodup).2 h
  obtain ⟨d, hd, hvalue⟩ := Option.map_eq_some_iff.1 hget
  have hkey : d.1 = e.1 := by simpa using List.find?_some hd
  rw [hd, Prod.ext hkey hvalue]

theorem exists_get?_of_mem_keys (h : k ∈ l.keys) : ∃ v, l.get? k = some v := by
  cases hget : l.get? k with
  | none => exact absurd h (get?_eq_none_iff.1 hget)
  | some v => exact ⟨v, rfl⟩

theorem contains_eq_isSome_get? (l : Assoc κ β) (k : κ) : l.contains k = (l.get? k).isSome := by
  cases hget : l.get? k with
  | none =>
    have hk := get?_eq_none_iff.1 hget
    rw [Option.isSome_none, ← Bool.not_eq_true]
    exact fun h => hk (contains_iff.1 h)
  | some v => exact contains_iff.2 (mem_keys_of_mem (mem_of_get? hget))

theorem put_of_not_mem (h : k ∉ l.keys) (v : β) : put k v l = l ++ [(k, v)] := by
  induction l with
  | nil => rfl
  | cons e l ih =>
    rw [keys_cons, List.mem_cons, not_or] at h
    rw [put, if_neg (Ne.symm h.1), ih h.2]
    rfl

theorem mem_keys_put {j : κ} : j ∈ (put k v l).keys ↔ j ∈ l.keys ∨ j = k := by
  rw [keys_put]
  split
  · next hmem =>
    refine ⟨Or.inl, Or.rec id ?_⟩
    rintro rfl
    exact hmem
  · rw [List.mem_append, List.mem_singleton]

theorem mem_put {e : κ × β} (h : e ∈ l.put k v) : e = (k, v) ∨ e ∈ l := by
  induction l with
  | nil => exact Or.inl (List.mem_singleton.1 h)
  | cons d l ih =>
    rw [put] at h
    split at h
    · exact (List.mem_cons.1 h).imp_right (List.mem_cons_of_mem _)
    · cases List.mem_cons.1 h with
      | inl heq => exact Or.inr (heq ▸ List.mem_cons_self)
      | inr hmem => exact (ih hmem).imp_right (List.mem_cons_of_mem _)

/-- New entries go to the end in their order. -/
theorem foldl_put_of_nodup (entries : Assoc κ β) (h : (l ++ entries).keys.Nodup) :
    entries.foldl (fun l e => put e.1 e.2 l) l = l ++ entries := by
  induction entries generalizing l with
  | nil => rw [List.append_nil]; rfl
  | cons e entries ih =>
    have hnew : e.1 ∉ l.keys := by
      rw [keys_append, keys_cons, List.nodup_append] at h
      exact fun hmem => h.2.2 e.1 hmem e.1 List.mem_cons_self rfl
    have heq : l ++ [(e.1, e.2)] ++ entries = l ++ e :: entries := by
      rw [List.append_assoc]
      rfl
    rw [List.foldl_cons, put_of_not_mem hnew, ih (heq ▸ h), heq]

/-! ## Looking up in changed lists -/

theorem get?_append (l m : Assoc κ β) (k : κ) : get? (l ++ m) k = (l.get? k).or (m.get? k) := by
  induction l with
  | nil => simp [get?]
  | cons e l ih =>
    rw [List.cons_append, get?_cons, get?_cons, ih]
    split <;> simp

theorem get?_concat (h : k ∉ l.keys) (v : β) :
    get? (l ++ [(k, v)]) = Function.update l.get? k (some v) := by
  funext j
  rw [get?_append, get?_cons]
  cases decEq k j with
  | isTrue heq =>
    subst heq
    simp [get?_eq_none_iff.2 h]
  | isFalse hne => simp [hne, Ne.symm hne, get?]

theorem get?_filter (p : κ → Bool) (l : Assoc κ β) (k : κ) :
    get? (l.filter fun e => p e.1) k = if p k then l.get? k else none := by
  induction l with
  | nil => simp [get?]
  | cons e l ih =>
    cases decEq e.1 k with
    | isTrue heq =>
      subst heq
      cases hp : p e.1 with
      | true => simp [hp, get?_cons]
      | false => simpa [hp] using ih
    | isFalse hne =>
      cases hp : p e.1 with
      | true => simp [hp, get?_cons, hne, ih]
      | false => simp [hp, get?_cons, hne, ih]

/-- The value of one key changes. -/
theorem get?_map_value (f : β → β) (l : Assoc κ β) (k : κ) :
    get? (l.map fun e => if e.1 = k then (e.1, f e.2) else e) =
      Function.update l.get? k ((l.get? k).map f) := by
  funext j
  induction l with
  | nil => simp [get?, Function.update_apply]
  | cons e l ih =>
    simp only [List.map_cons, get?_cons, Function.update_apply] at ih ⊢
    cases decEq e.1 k with
    | isTrue heq =>
      subst heq
      cases decEq e.1 j with
      | isTrue hj => simp [hj]
      | isFalse hj => simp [hj, Ne.symm hj, ih]
    | isFalse hne =>
      cases decEq e.1 j with
      | isTrue hj =>
        subst hj
        simp [hne]
      | isFalse hj => simp [hne, hj, ih]

/-- Keys change, and exactly one of them to the key that is looked up. -/
theorem get?_map_key {f : κ → κ} {i k : κ} (h : ∀ j ∈ l.keys, f j = k ↔ j = i) :
    get? (l.map fun e => (f e.1, e.2)) k = l.get? i := by
  induction l with
  | nil => rfl
  | cons e l ih =>
    have hkey := h e.1 (by simp)
    rw [List.map_cons, get?_cons, get?_cons, ih fun j hj => h j (by simp [hj])]
    simp only [hkey]

theorem get?_replace_self {i k : κ} (hi : i ∈ l.keys) (hk : ∀ j ∈ l.keys, j = k → j = i)
    (v : β) : get? (l.map fun e => if e.1 = i then (k, v) else e) k = some v := by
  induction l with
  | nil => simp at hi
  | cons e l ih =>
    rw [List.map_cons, get?_cons]
    cases decEq e.1 i with
    | isTrue heq => simp [heq]
    | isFalse hne =>
      have hkey : e.1 ≠ k := fun h => hne (hk e.1 (by simp) h)
      have hmem : i ∈ keys l := by simpa [Ne.symm hne] using hi
      simpa [hne, hkey] using ih hmem fun j hj => hk j (by simp [hj])

theorem get?_replace_of_ne {i j k : κ} (hj : j ≠ k) (v : β) :
    get? (l.map fun e => if e.1 = i then (k, v) else e) j = if j = i then none else l.get? j := by
  induction l with
  | nil => simp [get?]
  | cons e l ih =>
    rw [List.map_cons, get?_cons, get?_cons, ih]
    cases decEq e.1 i with
    | isTrue heq =>
      subst heq
      simp only [if_true, if_neg (Ne.symm hj)]
      split
      · rfl
      · next hne => rw [if_neg (Ne.symm hne)]
    | isFalse hne =>
      simp only [if_neg hne]
      cases decEq e.1 j with
      | isTrue hej =>
        subst hej
        simp [hne]
      | isFalse hej => simp [hej]

/-- One entry is replaced by an entry with a key that no other entry has. -/
theorem get?_replace {i k : κ} (hi : i ∈ l.keys) (hk : ∀ j ∈ l.keys, j = k → j = i) (v : β) :
    get? (l.map fun e => if e.1 = i then (k, v) else e) =
      Function.update (Function.update l.get? i none) k (some v) := by
  funext j
  cases decEq j k with
  | isTrue heq =>
    subst heq
    rw [get?_replace_self hi hk, Function.update_self]
  | isFalse hne => rw [get?_replace_of_ne hne, Function.update_of_ne hne, Function.update_apply]

/-! ## Entries that are put one after the other -/

/-- Whether a list has the keys of some entries in the order in which each came first, with the
value that came last. -/
structure Records (l : Assoc κ β) (entries : List (κ × β)) : Prop where
  /-- The keys stand in the order in which each came first. -/
  keys_eq : l.keys = (keys entries).eraseDups
  /-- A key has the value that came last. -/
  get?_eq : ∀ k, l.get? k = get? entries.reverse k

theorem eraseDups_concat (ks : List κ) (k : κ) :
    (ks ++ [k]).eraseDups = if k ∈ ks then ks.eraseDups else ks.eraseDups ++ [k] := by
  rw [List.eraseDups_append]
  split
  · next hmem => simp [List.removeAll, hmem]
  · next hmem => simp [List.removeAll, hmem, List.eraseDups_cons]

theorem nodup_eraseDups (ks : List κ) : ks.eraseDups.Nodup := by
  induction ks using List.reverseRecOn with
  | nil => exact List.nodup_nil
  | append_singleton ks k ih =>
    rw [eraseDups_concat]
    split
    · exact ih
    · next hmem =>
      refine List.nodup_append.2 ⟨ih, List.pairwise_singleton _ k, ?_⟩
      rintro a ha b hb rfl
      exact hmem (List.mem_eraseDups.1 (List.mem_singleton.1 hb ▸ ha))

theorem Records.put {entries : List (κ × β)} (records : Records l entries) (k : κ) (v : β) :
    Records (put k v l) (entries ++ [(k, v)]) where
  keys_eq := by
    rw [keys_put, records.keys_eq, keys_append, keys_cons, keys_nil, eraseDups_concat]
    simp only [List.mem_eraseDups]
  get?_eq j := by
    rw [get?_put, records.get?_eq, List.reverse_append]
    exact (get?_cons (k, v) entries.reverse j).symm

theorem records_foldl_put (entries : List (κ × β)) :
    Records (entries.foldl (fun l e => Assoc.put e.1 e.2 l) []) entries := by
  have hrun {l : Assoc κ β} {before : List (κ × β)} (records : Records l before) :
      Records (entries.foldl (fun l e => Assoc.put e.1 e.2 l) l) (before ++ entries) := by
    induction entries generalizing l before with
    | nil => rwa [List.append_nil]
    | cons e entries ih =>
      rw [List.append_cons]
      exact ih (records.put e.1 e.2)
  have hnil : Records ([] : Assoc κ β) [] := ⟨rfl, fun _ => rfl⟩
  exact hrun hnil

/-- Lists in which every key occurs once are equal if they have the same keys in the same order
with the same values. -/
theorem eq_of_keys_eq (hl : l.keys.Nodup) (hkeys : l.keys = m.keys)
    (hget : ∀ k, l.get? k = m.get? k) : l = m := by
  induction l generalizing m with
  | nil =>
    cases m with
    | nil => rfl
    | cons e m => cases hkeys
  | cons d l ih =>
    cases m with
    | nil => cases hkeys
    | cons e m =>
      obtain ⟨i, v⟩ := d
      obtain ⟨j, w⟩ := e
      rw [keys_cons, keys_cons, List.cons.injEq] at hkeys
      obtain ⟨rfl, hrest⟩ := hkeys
      rw [keys_cons, List.nodup_cons] at hl
      have hvalue := hget i
      simp only [get?_cons, if_true, Option.some_inj] at hvalue
      subst hvalue
      refine congrArg _ (ih hl.2 hrest fun k => ?_)
      cases decEq i k with
      | isTrue heq =>
        rw [get?_eq_none_iff.2 (heq ▸ hl.1), get?_eq_none_iff.2 (heq ▸ hrest ▸ hl.1)]
      | isFalse hne =>
        have hk := hget k
        rwa [get?_cons, get?_cons, if_neg hne, if_neg hne] at hk

/-- Entries leave no choice for what records them. -/
theorem Records.eq {entries : List (κ × β)} (hl : Records l entries) (hm : Records m entries) :
    l = m := by
  refine eq_of_keys_eq ?_ (hl.keys_eq.trans hm.keys_eq.symm) fun k =>
    (hl.get?_eq k).trans (hm.get?_eq k).symm
  rw [hl.keys_eq]
  exact nodup_eraseDups _

/-! ## Comparison -/

/-- The entry of a key does not depend on the order of entries without repeated keys. -/
theorem get?_perm (perm : l.Perm m)
    (nodup : l.keys.Nodup) (k : κ) : l.get? k = m.get? k := by
  have nodup' : m.keys.Nodup := (perm.map _).nodup nodup
  cases hl : l.get? k with
  | none =>
    rw [get?_eq_none_iff] at hl
    exact (get?_eq_none_iff.2 fun hk => hl ((perm.map _).mem_iff.2 hk)).symm
  | some v =>
    rw [get?_eq_some_iff nodup] at hl
    exact ((get?_eq_some_iff nodup').2 (perm.mem_iff.1 hl)).symm

/-- A key that has related values in two lists, or none, is in both or in neither. -/
theorem mem_keys_iff_of_rel {r : β → β → Prop} {k : κ} (h : Option.Rel r (l.get? k) (m.get? k)) :
    k ∈ l.keys ↔ k ∈ m.keys := by
  rw [← contains_iff, ← contains_iff, contains_eq_isSome_get?, contains_eq_isSome_get?]
  generalize l.get? k = a at h ⊢
  generalize m.get? k = b at h ⊢
  cases h <;> simp

/-- Where values are related, an entry of the first list has a counterpart in the second one. -/
theorem exists_of_rel_left {r : β → β → Prop} {e : κ × β} (hl : l.keys.Nodup) (he : e ∈ l)
    (h : Option.Rel r (l.get? e.1) (m.get? e.1)) : ∃ w, m.get? e.1 = some w ∧ r e.2 w := by
  rw [(get?_eq_some_iff hl).2 he] at h
  generalize m.get? e.1 = b at h ⊢
  cases h with
  | some hrel => exact ⟨_, rfl, hrel⟩

/-- Where values are related, an entry of the second list has a counterpart in the first one. -/
theorem exists_of_rel_right {r : β → β → Prop} {e : κ × β} (hm : m.keys.Nodup) (he : e ∈ m)
    (h : Option.Rel r (l.get? e.1) (m.get? e.1)) : ∃ v, l.get? e.1 = some v ∧ r v e.2 := by
  rw [(get?_eq_some_iff hm).2 he] at h
  generalize l.get? e.1 = a at h ⊢
  cases h with
  | some hrel => exact ⟨_, rfl, hrel⟩

/-- Every key of one list has an equal value in the other. -/
theorem forall_of_sameEntries {same : β → β → Bool} (h : sameEntries same l m = true) :
    ∀ e ∈ l, ∃ v, m.get? e.1 = some v ∧ same e.2 v = true := by
  intro e he
  have hall := (Bool.and_eq_true_iff.1 h).2
  have hsame := List.all_eq_true.1 hall e he
  cases hget : m.get? e.1 with
  | none => rw [hget] at hsame; cases hsame
  | some v => rw [hget] at hsame; exact ⟨v, rfl, hsame⟩

/-- Two lists in which every key occurs once hold the same entries if and only if every key
has equal values in both or is in neither. -/
theorem sameEntries_iff {same : β → β → Bool} (hl : l.keys.Nodup) (hm : m.keys.Nodup) :
    sameEntries same l m = true ↔
      ∀ k, Option.Rel (fun v w => same v w = true) (l.get? k) (m.get? k) := by
  constructor
  · intro h k
    have hsub : l.keys ⊆ m.keys := by
      intro k hk
      obtain ⟨e, he, rfl⟩ := List.mem_map.1 hk
      obtain ⟨v, hv, -⟩ := forall_of_sameEntries h e he
      exact mem_keys_of_mem (mem_of_get? hv)
    -- The lists are equally long, so the second one has no further keys.
    have hlen : m.keys.length ≤ l.keys.length := by
      rw [keys, keys, List.length_map, List.length_map]
      exact Nat.le_of_eq (eq_of_beq (Bool.and_eq_true_iff.1 h).1).symm
    have hperm : l.keys.Perm m.keys := (List.Nodup.subperm hl hsub).perm_of_length_le hlen
    cases hget : l.get? k with
    | none =>
      have hk : k ∉ m.keys := fun hk => get?_eq_none_iff.1 hget (hperm.mem_iff.2 hk)
      rw [get?_eq_none_iff.2 hk]
      exact .none
    | some v =>
      obtain ⟨w, hw, hsame⟩ := forall_of_sameEntries h _ (mem_of_get? hget)
      rw [hw]
      exact .some hsame
  · intro h
    have hkeys (k : κ) : k ∈ l.keys ↔ k ∈ m.keys := mem_keys_iff_of_rel (h k)
    have hlen : l.length = m.length := by
      have := ((List.perm_ext_iff_of_nodup hl hm).2 hkeys).length_eq
      rwa [keys, keys, List.length_map, List.length_map] at this
    rw [sameEntries, hlen, beq_self_eq_true, Bool.true_and, List.all_eq_true]
    intro e he
    obtain ⟨w, hw, hsame⟩ := exists_of_rel_left hl he (h e.1)
    rw [hw]
    exact hsame

end Argumentation.Assoc
