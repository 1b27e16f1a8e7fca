/-!
# Characters between marks

What stands in front of a first mark (`span_mark`), and what stands between marks: pieces that
hold no mark (`not_mem_of_mem_splitOn`) and whose characters are those of the text
(`mem_intercalate_of_mem`, `mem_of_mem_intercalate`).
-/

namespace Argumentation.Text

/-! ## In front of a mark -/

/-- Characters that meet a condition end where one does not. -/
theorem span_append {p : Char → Bool} {front rest : List Char} (hfront : ∀ c ∈ front, p c = true)
    (hrest : ∀ c ∈ rest.head?, p c = false) :
    (front ++ rest).takeWhile p = front ∧ (front ++ rest).dropWhile p = rest := by
  rw [List.takeWhile_append_of_pos hfront, List.dropWhile_append_of_pos hfront]
  cases rest with
  | nil => exact ⟨List.append_nil front, rfl⟩
  | cons c cs =>
    have hc : p c = false := hrest c rfl
    simp [hc]

/-- Characters without a mark are followed by the first one. -/
theorem span_mark {mark : Char} {front : List Char} (h : mark ∉ front) (rest : List Char) :
    (front ++ mark :: rest).takeWhile (· ≠ mark) = front ∧
      (front ++ mark :: rest).dropWhile (· ≠ mark) = mark :: rest := by
  refine span_append (fun c hc => ?_) fun c hc => ?_
  · rw [decide_eq_true_eq]
    rintro rfl
    exact h hc
  · rw [List.head?_cons, Option.mem_some_iff] at hc
    simp [hc]

/-- The first mark is where it is. -/
theorem append_mark_inj {mark : Char} {front front' rest rest' : List Char} (h : mark ∉ front)
    (h' : mark ∉ front') (heq : front ++ mark :: rest = front' ++ mark :: rest') :
    front = front' ∧ rest = rest' := by
  have hfront : front = front' := by
    rw [← (span_mark h rest).1, heq, (span_mark h' rest').1]
  rw [hfront] at heq
  exact ⟨hfront, (List.cons.inj (List.append_cancel_left heq)).2⟩

/-! ## Between marks -/

theorem mem_intercalate_of_mem {c : Char} {l sep : List Char} {ls : List (List Char)} (hl : l ∈ ls)
    (hc : c ∈ l) : c ∈ List.intercalate sep ls := by
  induction ls with
  | nil => cases hl
  | cons k ks ih =>
    cases ks with
    | nil =>
      rw [List.mem_singleton.1 hl] at hc
      rwa [List.intercalate_singleton]
    | cons m ms =>
      rw [List.intercalate_cons_cons, List.append_assoc]
      cases hl with
      | head => exact List.mem_append_left _ hc
      | tail _ hl => exact List.mem_append_right _ (List.mem_append_right _ (ih hl))

theorem mem_of_mem_intercalate {c : Char} {sep : List Char} {ls : List (List Char)}
    (hc : c ∈ List.intercalate sep ls) : c ∈ sep ∨ ∃ l ∈ ls, c ∈ l := by
  induction ls with
  | nil => cases hc
  | cons k ks ih =>
    cases ks with
    | nil =>
      rw [List.intercalate_singleton] at hc
      exact .inr ⟨k, List.mem_cons_self, hc⟩
    | cons m ms =>
      rw [List.intercalate_cons_cons, List.mem_append, List.mem_append] at hc
      obtain (hk | hsep) | hrest := hc
      · exact .inr ⟨k, List.mem_cons_self, hk⟩
      · exact .inl hsep
      · obtain hsep | ⟨l, hl, hc⟩ := ih hrest
        · exact .inl hsep
        · exact .inr ⟨l, List.mem_cons_of_mem k hl, hc⟩

/-- No piece between marks holds the mark. -/
theorem not_mem_of_mem_splitOn {c : Char} {f cs : List Char} (h : f ∈ cs.splitOn c) : c ∉ f := by
  induction cs generalizing f with
  | nil =>
    rw [List.splitOn_nil, List.mem_singleton] at h
    exact h ▸ List.not_mem_nil
  | cons d cs ih =>
    rw [List.splitOn_cons_eq_if_modifyHead] at h
    split at h
    · next hd =>
      cases h with
      | head => exact List.not_mem_nil
      | tail _ h => exact ih h
    · next hd =>
      cases hrest : cs.splitOn c with
      | nil => exact absurd hrest (List.splitOn_ne_nil c cs)
      | cons e es =>
        rw [hrest, List.modifyHead_cons] at h
        rw [hrest] at ih
        cases h with
        | head =>
          rw [List.mem_cons, not_or]
          exact ⟨fun hc => hd (by simp [hc]), ih List.mem_cons_self⟩
        | tail _ h => exact ih (List.mem_cons_of_mem e h)

end Argumentation.Text
