import Argumentation.Proofs.Text.Trimming

/-!
# Words with single spaces between them

When the words of a text are joined by single spaces again, each stretch of blanks between them has
become one space and the blanks at both ends are gone.  `respace` does this blank by blank, and
`intercalate_wordChars` says that it comes to the same.
-/

namespace Argumentation.Text

/-! ## Stretches of blanks -/

/-- The characters behind a stretch of blanks, with one space in front unless nothing is left. -/
def separate (cs : List Char) : List Char :=
  match trimLeft cs with
  | [] => []
  | ds => ' ' :: ds

/-- The characters with one space for each stretch of blanks, and none for blanks at the end. -/
def respace : List Char → List Char
  | [] => []
  | c :: cs => if isBlank c then separate (respace cs) else c :: respace cs

theorem respace_cons_blank {c : Char} (hc : isBlank c = true) (cs : List Char) :
    respace (c :: cs) = separate (respace cs) := by
  rw [respace, if_pos hc]

theorem respace_cons {c : Char} (hc : isBlank c = false) (cs : List Char) :
    respace (c :: cs) = c :: respace cs := by
  rw [respace, if_neg (Bool.eq_false_iff.1 hc)]

theorem trimLeft_cons {c : Char} (hc : isBlank c = true) (cs : List Char) :
    trimLeft (c :: cs) = trimLeft cs :=
  List.dropWhile_cons_of_pos hc

theorem trimLeft_trimLeft (cs : List Char) : trimLeft (trimLeft cs) = trimLeft cs :=
  trimLeft_eq_self fun _ hc => head?_dropWhile_isBlank hc

theorem trimLeft_separate (cs : List Char) : trimLeft (separate cs) = trimLeft cs := by
  have hidem := trimLeft_trimLeft cs
  unfold separate
  split
  · next h => rw [h]; rfl
  · rw [trimLeft_cons (by decide), hidem]

/-- Blanks in front are dropped before or after. -/
theorem trimLeft_respace (cs : List Char) : trimLeft (respace cs) = respace (trimLeft cs) := by
  induction cs with
  | nil => rfl
  | cons c cs ih =>
    cases hc : isBlank c with
    | true => rw [respace_cons_blank hc, trimLeft_separate, trimLeft_cons hc, ih]
    | false =>
      have hhead : ∀ d ∈ (c :: cs).head?, isBlank d = false := by simpa using hc
      rw [trimLeft_eq_self hhead, respace_cons hc, trimLeft_eq_self (by simpa using hc)]

theorem respace_append {front : List Char} (hfront : ∀ c ∈ front, isBlank c = false)
    (cs : List Char) : respace (front ++ cs) = front ++ respace cs := by
  induction front with
  | nil => rfl
  | cons c front ih =>
    rw [List.forall_mem_cons] at hfront
    rw [List.cons_append, respace_cons hfront.1, ih hfront.2, List.cons_append]

/-- Characters that are no blanks are where they were. -/
theorem respace_eq_append_iff {front cs ds : List Char} (hfront : ∀ c ∈ front, isBlank c = false) :
    respace cs = front ++ ds ↔ ∃ rest : List Char, cs = front ++ rest ∧ respace rest = ds := by
  constructor
  · intro h
    induction front generalizing cs with
    | nil => exact ⟨cs, rfl, h⟩
    | cons c front ih =>
      rw [List.forall_mem_cons] at hfront
      cases cs with
      | nil => cases h
      | cons d cs =>
        cases hd : isBlank d with
        | true =>
          rw [respace_cons_blank hd, separate] at h
          split at h
          · cases h
          · rw [List.cons_append, List.cons.injEq] at h
            exact absurd hfront.1 (by rw [← h.1]; decide)
        | false =>
          rw [respace_cons hd, List.cons_append, List.cons.injEq] at h
          obtain ⟨rest, hrest, hds⟩ := ih hfront.2 h.2
          exact ⟨rest, by rw [h.1, hrest, List.cons_append], hds⟩
  · rintro ⟨rest, rfl, rfl⟩
    exact respace_append hfront rest

theorem respace_of_isBlank {gap : List Char} (hgap : ∀ c ∈ gap, isBlank c = true) :
    respace gap = [] := by
  induction gap with
  | nil => rfl
  | cons c gap ih =>
    rw [List.forall_mem_cons] at hgap
    rw [respace_cons_blank hgap.1, ih hgap.2]
    rfl

/-- Blanks at the end are dropped. -/
theorem respace_append_of_isBlank {gap : List Char} (hgap : ∀ c ∈ gap, isBlank c = true)
    (cs : List Char) : respace (cs ++ gap) = respace cs := by
  induction cs with
  | nil => exact respace_of_isBlank hgap
  | cons c cs ih => rw [List.cons_append, respace, ih, respace]

theorem respace_trimRight (cs : List Char) : respace (trimRight cs) = respace cs := by
  obtain ⟨gap, hgap, heq⟩ := exists_trimRight_append cs
  rw [← respace_append_of_isBlank hgap, ← heq]

/-! ## The first word -/

/-- A word that has been read in part goes on up to the next blank. -/
theorem wordChars_go_of_ne_nil {word : List Char} (hne : word ≠ []) (cs : List Char) :
    wordChars.go word cs = (word.reverse ++ cs.takeWhile (!isBlank ·)) ::
      wordChars (cs.dropWhile (!isBlank ·)) := by
  induction cs generalizing word with
  | nil => simp [wordChars, wordChars.go, hne]
  | cons c cs ih =>
    cases hc : isBlank c with
    | true => simp [wordChars, wordChars.go, hc, hne]
    | false => simp [wordChars.go, hc, ih (List.cons_ne_nil c word)]

theorem wordChars_cons_blank {c : Char} (hc : isBlank c = true) (cs : List Char) :
    wordChars (c :: cs) = wordChars cs := by
  simp [wordChars, wordChars.go, hc]

theorem wordChars_cons {c : Char} (hc : isBlank c = false) (cs : List Char) :
    wordChars (c :: cs) =
      (c :: cs.takeWhile (!isBlank ·)) :: wordChars (cs.dropWhile (!isBlank ·)) := by
  have hgo := wordChars_go_of_ne_nil (List.cons_ne_nil c []) cs
  simpa [wordChars, wordChars.go, hc] using hgo

/-! ## Joined words -/

theorem ne_nil_of_mem_wordChars {word cs w : List Char} (h : w ∈ wordChars.go word cs) :
    w ≠ [] := by
  induction cs generalizing word with
  | nil =>
    rw [wordChars.go] at h
    split at h
    · cases h
    · next hne =>
      rw [List.mem_singleton.1 h]
      simpa using hne
  | cons c cs ih =>
    rw [wordChars.go] at h
    split at h
    · split at h
      · exact ih h
      · next hne =>
        cases h with
        | head => simpa using hne
        | tail _ h => exact ih h
    · exact ih h

/-- The words that begin with a word that has been read in part. -/
theorem intercalate_go (word cs : List Char) : List.intercalate [' '] (wordChars.go word cs) =
    if word = [] then respace (trimLeft cs) else word.reverse ++ respace cs := by
  induction cs generalizing word with
  | nil =>
    rw [wordChars.go]
    split
    · rfl
    · simp [respace]
  | cons c cs ih =>
    rw [wordChars.go]
    cases hc : isBlank c with
    | true =>
      have hrest := ih []
      rw [if_pos rfl] at hrest
      rw [if_pos rfl, trimLeft_cons hc, respace_cons_blank hc]
      split
      · rw [hrest]
      · rw [separate, trimLeft_respace, ← hrest]
        cases hwords : wordChars.go [] cs with
        | nil => simp
        | cons w ws =>
          have hne : w ≠ [] := ne_nil_of_mem_wordChars (hwords ▸ List.mem_cons_self)
          rw [List.intercalate_cons_cons]
          split
          · next hnil => cases ws <;> simp_all
          · simp
    | false =>
      have hhead : ∀ d ∈ (c :: cs).head?, isBlank d = false := by simpa using hc
      rw [if_neg Bool.false_ne_true, ih, if_neg (List.cons_ne_nil c word), respace_cons hc,
        trimLeft_eq_self hhead, respace_cons hc]
      split
      · next hnil => rw [hnil]; rfl
      · simp

/-- Words that are joined again have single spaces between them. -/
theorem intercalate_wordChars (cs : List Char) :
    List.intercalate [' '] (wordChars cs) = respace (trimLeft cs) := by
  rw [wordChars, intercalate_go, if_pos rfl]

theorem toList_intercalate_words (s : String) :
    (String.intercalate " " (words s)).toList = respace (trimLeft s.toList) := by
  rw [String.toList_intercalate, words, List.map_map]
  have hspace : " ".toList = [' '] := by decide
  rw [hspace, ← intercalate_wordChars]
  simp [Function.comp_def]

end Argumentation.Text
