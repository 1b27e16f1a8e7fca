import Argumentation.Text.Blank

/-!
# Trimmed texts

What a trimmed text looks like at its ends, and why the lines of a text that are not
blank do not change when the text is trimmed.

`trimChars_eq_self` says that a text without blanks at its ends stays as it is,
`trim_trim` that trimming twice is trimming once, and `trim_eq_empty_iff` that only a blank
text is trimmed to nothing.  `retained_trimChars` is about the
lines: a blank at either end of a text adds at most blanks to a line or a line of
blanks, and neither is kept.
-/

namespace Argumentation.Text

/-! ## The ends of a trimmed text -/

/-- Whether the first and the last character, if there are any, are no blanks. -/
def Trimmed (cs : List Char) : Prop :=
  (∀ c ∈ cs.head?, isBlank c = false) ∧ ∀ c ∈ cs.getLast?, isBlank c = false

theorem trimmed_of_forall {cs : List Char} (h : ∀ c ∈ cs, isBlank c = false) : Trimmed cs :=
  ⟨fun c hc => h c (List.mem_of_mem_head? hc), fun c hc => h c (List.mem_of_getLast? hc)⟩

theorem head?_dropWhile_isBlank {cs : List Char} {c : Char}
    (h : c ∈ (cs.dropWhile isBlank).head?) : isBlank c = false := by
  have hn := List.head?_dropWhile_not isBlank cs
  rw [Option.mem_def] at h
  rw [h] at hn
  simpa using hn

theorem trimLeft_eq_self {cs : List Char} (h : ∀ c ∈ cs.head?, isBlank c = false) :
    trimLeft cs = cs := by
  cases cs with
  | nil => rfl
  | cons c cs => simp [trimLeft, h c rfl]

theorem trimRight_eq_self {cs : List Char} (h : ∀ c ∈ cs.getLast?, isBlank c = false) :
    trimRight cs = cs := by
  have hr : trimLeft cs.reverse = cs.reverse :=
    trimLeft_eq_self fun c hc => h c (by rwa [List.head?_reverse] at hc)
  unfold trimRight
  rw [show cs.reverse.dropWhile isBlank = cs.reverse from hr, List.reverse_reverse]

/-- A text without blanks at its ends stays as it is. -/
theorem trimChars_eq_self {cs : List Char} (h : Trimmed cs) : trimChars cs = cs := by
  rw [trimChars, trimLeft_eq_self h.1, trimRight_eq_self h.2]

/-- What is trimmed at the end keeps its first character. -/
theorem head?_trimRight {cs : List Char} {c : Char} (h : c ∈ (trimRight cs).head?) :
    c ∈ cs.head? := by
  have hp : trimRight cs <+: cs := by
    unfold trimRight
    rw [← List.reverse_suffix, List.reverse_reverse]
    exact List.dropWhile_suffix isBlank
  obtain ⟨rest, hrest⟩ := hp
  cases ht : trimRight cs with
  | nil => rw [ht] at h; simp at h
  | cons d ds =>
    rw [ht] at h hrest
    rw [← hrest]
    simpa using h

theorem trimmed_trimChars (cs : List Char) : Trimmed (trimChars cs) := by
  refine ⟨fun c hc => ?_, fun c hc => ?_⟩
  · exact head?_dropWhile_isBlank (head?_trimRight hc)
  · unfold trimChars trimRight at hc
    rw [List.getLast?_reverse] at hc
    exact head?_dropWhile_isBlank hc

@[simp] theorem trimChars_trimChars (cs : List Char) : trimChars (trimChars cs) = trimChars cs :=
  trimChars_eq_self (trimmed_trimChars cs)

@[simp] theorem trim_trim (s : String) : trim (trim s) = trim s := by
  simp [trim]

/-- Only a blank text is trimmed to nothing. -/
theorem trim_eq_empty_iff {s : String} : trim s = "" ↔ isBlankText s = true := by
  have hnil : trim s = "" ↔ trimChars s.toList = [] := by
    rw [← String.toList_inj, toList_trim, String.toList_empty]
  rw [hnil, isBlankText, List.all_eq_true]
  constructor
  · intro h
    have hleft : ∀ c ∈ trimLeft s.toList, isBlank c = true := trimRight_eq_nil_iff.1 h
    cases hcs : trimLeft s.toList with
    | nil => exact trimLeft_eq_nil_iff.1 hcs
    | cons c cs =>
      have hc : isBlank c = false := head?_dropWhile_isBlank (Option.mem_def.2 (by
        rw [show s.toList.dropWhile isBlank = c :: cs from hcs, List.head?_cons]))
      rw [hleft c (hcs ▸ List.mem_cons_self)] at hc
      cases hc
  · intro h
    rw [trimChars, trimLeft_eq_nil_iff.2 h]
    rfl

/-! ## Blanks at the ends -/

theorem trimChars_cons_blank {b : Char} (hb : isBlank b = true) (cs : List Char) :
    trimChars (b :: cs) = trimChars cs := by
  simp [trimChars, trimLeft, hb]

theorem trimRight_append_blank {b : Char} (hb : isBlank b = true) (cs : List Char) :
    trimRight (cs ++ [b]) = trimRight cs := by
  simp [trimRight, hb]

theorem trimRight_append {gap : List Char} (hgap : ∀ c ∈ gap, isBlank c = true) (cs : List Char) :
    trimRight (cs ++ gap) = trimRight cs := by
  have hreverse : ∀ c ∈ gap.reverse, isBlank c = true := fun c hc => hgap c (List.mem_reverse.1 hc)
  rw [trimRight, List.reverse_append, List.dropWhile_append_of_pos hreverse, trimRight]

/-- What is trimmed away at the end are blanks. -/
theorem exists_trimRight_append (cs : List Char) :
    ∃ gap : List Char, (∀ c ∈ gap, isBlank c = true) ∧ cs = trimRight cs ++ gap := by
  refine ⟨(cs.reverse.takeWhile isBlank).reverse, fun c hc => ?_, ?_⟩
  · exact List.all_eq_true.1 List.all_takeWhile c (List.mem_reverse.1 hc)
  · rw [trimRight, ← List.reverse_append, List.takeWhile_append_dropWhile, List.reverse_reverse]

theorem trimChars_append_blank {b : Char} (hb : isBlank b = true) (cs : List Char) :
    trimChars (cs ++ [b]) = trimChars cs := by
  induction cs with
  | nil => simp [trimChars, trimLeft, hb]
  | cons c cs ih =>
    by_cases hc : isBlank c = true
    · rw [List.cons_append, trimChars_cons_blank hc, trimChars_cons_blank hc, ih]
    · have hl : ∀ ds : List Char, trimLeft (c :: ds) = c :: ds := fun ds => by
        simp [trimLeft, hc]
      rw [List.cons_append, trimChars, trimChars, hl, hl, ← List.cons_append,
        trimRight_append_blank hb]

/-- A carriage return is a blank, so it is trimmed away anyhow. -/
theorem trimChars_dropReturn (cs : List Char) : trimChars (dropReturn cs) = trimChars cs := by
  unfold dropReturn
  split
  · next h =>
    obtain ⟨hne, hlast⟩ := List.getLast?_eq_some_iff.1 h
    rw [hlast, List.dropLast_concat, trimChars_append_blank (by decide)]
  · rfl

/-! ## The lines that are not blank -/

/-- The lines of some characters without surrounding blanks, blank ones left out. -/
def retained (cs : List Char) : List (List Char) :=
  ((lineChars cs).map trimChars).filter (· ≠ [])

/-- The lines that `lineChars.go` yields, trimmed and without the blank ones. -/
def retainedFrom (line cs : List Char) : List (List Char) :=
  ((lineChars.go line cs).map trimChars).filter (· ≠ [])

/-- What remains of a single line. -/
def retainedLine (line : List Char) : List (List Char) :=
  if trimChars line = [] then [] else [trimChars line]

theorem retainedFrom_nil (line : List Char) : retainedFrom line [] = retainedLine line.reverse := by
  unfold retainedFrom retainedLine lineChars.go
  by_cases h : line = []
  · subst h; rfl
  · by_cases ht : trimChars line.reverse = [] <;> simp [h, ht]

theorem retainedFrom_newline (line cs : List Char) :
    retainedFrom line ('\n' :: cs) = retainedLine line.reverse ++ retainedFrom [] cs := by
  unfold retainedFrom retainedLine
  rw [lineChars.go]
  by_cases ht : trimChars line.reverse = [] <;> simp [trimChars_dropReturn, ht]

theorem retainedFrom_cons (line : List Char) {c : Char} (hc : c ≠ '\n') (cs : List Char) :
    retainedFrom line (c :: cs) = retainedFrom (c :: line) cs := by
  unfold retainedFrom
  rw [lineChars.go]
  exact hc

/-- A blank at the front of the first line is trimmed away. -/
theorem retainedFrom_append_blank {b : Char} (hb : isBlank b = true) (line cs : List Char) :
    retainedFrom (line ++ [b]) cs = retainedFrom line cs := by
  have hline : ∀ l : List Char, retainedLine (l ++ [b]).reverse = retainedLine l.reverse :=
    fun l => by simp [retainedLine, trimChars_cons_blank hb]
  induction cs generalizing line with
  | nil => rw [retainedFrom_nil, retainedFrom_nil, hline]
  | cons c cs ih =>
    by_cases hc : c = '\n'
    · subst hc
      rw [retainedFrom_newline, retainedFrom_newline, hline]
    · rw [retainedFrom_cons _ hc, retainedFrom_cons _ hc, ← List.cons_append, ih]

theorem retained_cons_blank {b : Char} (hb : isBlank b = true) (cs : List Char) :
    retained (b :: cs) = retained cs := by
  change retainedFrom [] (b :: cs) = retainedFrom [] cs
  by_cases hn : b = '\n'
  · subst hn
    rw [retainedFrom_newline]
    rfl
  · rw [retainedFrom_cons _ hn]
    exact retainedFrom_append_blank hb [] cs

theorem retainedFrom_concat_blank {b : Char} (hb : isBlank b = true) (line cs : List Char) :
    retainedFrom line (cs ++ [b]) = retainedFrom line cs := by
  induction cs generalizing line with
  | nil =>
    rw [List.nil_append, retainedFrom_nil]
    by_cases hn : b = '\n'
    · subst hn
      rw [retainedFrom_newline, retainedFrom_nil]
      exact List.append_nil _
    · rw [retainedFrom_cons _ hn, retainedFrom_nil, retainedLine, List.reverse_cons,
        trimChars_append_blank hb]
      rfl
  | cons c cs ih =>
    by_cases hc : c = '\n'
    · subst hc
      rw [List.cons_append, retainedFrom_newline, retainedFrom_newline, ih]
    · rw [List.cons_append, retainedFrom_cons _ hc, retainedFrom_cons _ hc, ih]

theorem retained_trimLeft (cs : List Char) : retained (trimLeft cs) = retained cs := by
  induction cs with
  | nil => rfl
  | cons c cs ih =>
    by_cases hc : isBlank c = true
    · rw [retained_cons_blank hc, ← ih]
      simp [trimLeft, hc]
    · simp [trimLeft, hc]

theorem retained_reverse_dropWhile (cs : List Char) :
    retained (cs.dropWhile isBlank).reverse = retained cs.reverse := by
  induction cs with
  | nil => rfl
  | cons c cs ih =>
    by_cases hc : isBlank c = true
    · rw [List.dropWhile_cons_of_pos hc, ih, List.reverse_cons]
      exact (retainedFrom_concat_blank hc [] cs.reverse).symm
    · rw [List.dropWhile_cons_of_neg hc]

theorem retained_trimRight (cs : List Char) : retained (trimRight cs) = retained cs := by
  rw [trimRight, retained_reverse_dropWhile, List.reverse_reverse]

/-- The lines that are not blank do not change when the text is trimmed. -/
theorem retained_trimChars (cs : List Char) : retained (trimChars cs) = retained cs := by
  rw [trimChars, retained_trimRight, retained_trimLeft]

/-! ## Lines that are put together -/

theorem lineChars_go_append {l : List Char} (hl : '\n' ∉ l) (line cs : List Char) :
    lineChars.go line (l ++ cs) = lineChars.go (l.reverse ++ line) cs := by
  induction l generalizing line with
  | nil => rfl
  | cons c l ih =>
    rw [List.mem_cons, not_or] at hl
    rw [List.cons_append, lineChars.go, ih hl.2, List.reverse_cons, List.append_assoc]
    · rfl
    · exact fun h => hl.1 h.symm

theorem retainedFrom_append {l : List Char} (hl : '\n' ∉ l) (line cs : List Char) :
    retainedFrom line (l ++ cs) = retainedFrom (l.reverse ++ line) cs := by
  unfold retainedFrom
  rw [lineChars_go_append hl]

theorem retainedLine_of_trimmed {l : List Char} (ht : Trimmed l) (hne : l ≠ []) :
    retainedLine l = [l] := by
  rw [retainedLine, trimChars_eq_self ht, if_neg hne]

/-- Lines that are trimmed and not blank are kept as they are. -/
theorem retained_intercalate {ls : List (List Char)}
    (h : ∀ l ∈ ls, '\n' ∉ l ∧ Trimmed l ∧ l ≠ []) :
    retained (List.intercalate ['\n'] ls) = ls := by
  change retainedFrom [] _ = ls
  induction ls with
  | nil => rfl
  | cons l ls ih =>
    obtain ⟨hnl, ht, hne⟩ := h l List.mem_cons_self
    have hrest := ih fun k hk => h k (List.mem_cons_of_mem l hk)
    have hrev : (l.reverse ++ []).reverse = l := by simp
    cases ls with
    | nil =>
      rw [List.intercalate_singleton, ← List.append_nil l, retainedFrom_append hnl,
        retainedFrom_nil, hrev, retainedLine_of_trimmed ht hne, List.append_nil]
    | cons k ks =>
      rw [List.intercalate_cons_cons, List.append_assoc, retainedFrom_append hnl,
        List.singleton_append, retainedFrom_newline, hrest, hrev, retainedLine_of_trimmed ht hne]
      rfl

end Argumentation.Text
