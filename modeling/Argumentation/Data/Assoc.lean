/-!
# Entries in the order in which they came

A list of pairs of a key and a value in which every key occurs once.  A new key
goes to the end, a known one keeps its place and gets the new value.

`get?_put` says what is found after an entry was put, and `keys_put` which keys
there are then and in which order.
-/

namespace Argumentation

/-- Entries in the order in which their keys came. -/
abbrev Assoc (κ β : Type) := List (κ × β)

namespace Assoc

variable {κ β : Type} [DecidableEq κ]

/-- The keys in their order. -/
def keys (l : Assoc κ β) : List κ := l.map (·.1)

/-- The value of a key. -/
def get? (l : Assoc κ β) (k : κ) : Option β := (l.find? (·.1 = k)).map (·.2)

/-- Whether there is an entry for a key. -/
def contains (l : Assoc κ β) (k : κ) : Bool := l.any (·.1 = k)

/-- Sets the value of a key. -/
def put (k : κ) (v : β) : Assoc κ β → Assoc κ β
  | [] => [(k, v)]
  | e :: l => if e.1 = k then (k, v) :: l else e :: put k v l

/-- Whether two lists hold equal values under the same keys, in whatever order. -/
def sameEntries (same : β → β → Bool) (l m : Assoc κ β) : Bool :=
  l.length == m.length &&
    l.all fun e => match get? m e.1 with
      | some v => same e.2 v
      | none => false

theorem get?_cons (e : κ × β) (l : Assoc κ β) (j : κ) :
    get? (e :: l) j = if e.1 = j then some e.2 else get? l j := by
  by_cases h : e.1 = j <;> simp [get?, h]

theorem get?_put (l : Assoc κ β) (k j : κ) (v : β) :
    (put k v l).get? j = if k = j then some v else l.get? j := by
  induction l with
  | nil => simp only [put, get?_cons]
  | cons e l ih =>
    by_cases he : e.1 = k
    · by_cases hk : k = j <;> simp [put, get?_cons, he, hk]
    · by_cases hj : e.1 = j
      · have hk : k ≠ j := fun h => he (hj.trans h.symm)
        rw [put, if_neg he, get?_cons, get?_cons, if_pos hj, if_pos hj, if_neg hk]
      · rw [put, if_neg he, get?_cons, get?_cons, if_neg hj, if_neg hj, ih]

theorem keys_put (l : Assoc κ β) (k : κ) (v : β) :
    (put k v l).keys = if k ∈ l.keys then l.keys else l.keys ++ [k] := by
  induction l with
  | nil => simp [put, keys]
  | cons e l ih =>
    by_cases he : e.1 = k
    · simp [put, keys, he]
    · have hne : k ≠ e.1 := fun h => he h.symm
      unfold keys at ih ⊢
      by_cases hm : k ∈ l.map (·.1) <;> simp_all [put]

theorem contains_iff {l : Assoc κ β} {k : κ} : l.contains k = true ↔ k ∈ l.keys := by
  simp only [contains, keys, List.any_eq_true, List.mem_map, decide_eq_true_eq]

theorem nodup_keys_put {l : Assoc κ β} (h : l.keys.Nodup) (k : κ) (v : β) :
    (put k v l).keys.Nodup := by
  rw [keys_put]
  by_cases hm : k ∈ l.keys
  · simpa [hm] using h
  · simp only [hm, if_false, List.nodup_append]
    exact ⟨h, by simp, fun a ha b hb => by simp at hb; exact fun e => hm (hb ▸ e ▸ ha)⟩

end Assoc

end Argumentation
