import Argumentation.Proofs.Labeling
import Argumentation.Proofs.Text.Trimming
import Argumentation.Semantics.Request
import Mathlib.Data.List.Forall2

/-!
# Literals in pieces

A request to filter labelings sends each row in pieces, its words.  A literal may have blanks
inside its parentheses, and then its pieces spell no literal any more.

`Finds` says which literals a row has and how each of them is written there.  It follows the row
from left to right, one literal or one character that begins none at a time, so what is true of a
row is shown along it.  `Finds.readFrom_eq` says that a row is read in this way, and
`Finds.readWords_eq` that its words have just those of the literals that are written without
blanks.

Main statement: `make_pieces`.
-/

namespace Argumentation

open Text

namespace Labeling

/-! ## Literals of a row -/

/-- A literal where it stands in a row. -/
structure Occurrence where
  /-- The literal. -/
  literal : Literal
  /-- How it is written. -/
  way : Spelling
  /-- The argument as it is written. -/
  argument : List Char

namespace Occurrence

/-- The characters of the literal. -/
def text (o : Occurrence) : List Char := o.way.write o.argument

/-- Whether the characters spell the literal. -/
structure Fits (o : Occurrence) : Prop where
  /-- The tag and the blanks are right. -/
  way : o.way.Fits o.literal.status
  /-- There is an argument. -/
  ne_nil : o.argument ≠ []
  /-- The argument has neither blanks nor parentheses. -/
  chars : ∀ c ∈ o.argument, isArgumentChar c = true
  /-- The literal names the argument by its canonical form. -/
  named : o.literal.argument = canonicalId (String.ofList o.argument)

/-- Whether the literal is written without blanks. -/
def isTight (o : Occurrence) : Bool := o.way.before.isEmpty && o.way.after.isEmpty

end Occurrence

/-- The literals that are found in some characters of a row from left to right.  `inWord` says
whether a word character stands in front.  Where a literal begins it is taken as a whole. -/
inductive Finds : Bool → List Char → List Occurrence → Prop
  /-- Nothing is left. -/
  | done {inWord : Bool} : Finds inWord [] []
  /-- A literal stands in front. -/
  | literal {o : Occurrence} {rest : List Char} {os : List Occurrence} :
    o.Fits → Finds false rest os → Finds false (o.text ++ rest) (o :: os)
  /-- No literal begins here. -/
  | pass {inWord : Bool} {c : Char} {cs : List Char} {os : List Occurrence} :
    (inWord = false → ∀ (o : Occurrence) (rest : List Char), o.Fits → c :: cs ≠ o.text ++ rest) →
      Finds (isWord c) cs os → Finds inWord (c :: cs) os

variable {inWord : Bool} {o : Occurrence} {os : List Occurrence} {c : Char}
  {cs front rest : List Char}

theorem Occurrence.readLiteral?_text (fits : o.Fits) (rest : List Char) :
    readLiteral? (o.text ++ rest) = some (o.literal, rest) :=
  readLiteral?_eq_some_iff.2
    ⟨o.way, o.argument, fits.way, fits.ne_nil, fits.chars, fits.named, rfl⟩

theorem readLiteral?_eq_none_iff : readLiteral? cs = none ↔
    ∀ (o : Occurrence) (rest : List Char), o.Fits → cs ≠ o.text ++ rest := by
  constructor
  · rintro hnone o rest fits rfl
    rw [o.readLiteral?_text fits] at hnone
    cases hnone
  · intro h
    rw [Option.eq_none_iff_forall_ne_some]
    rintro ⟨l, rest⟩ hread
    obtain ⟨way, argument, hway, hne, hchars, hnamed, heq⟩ := readLiteral?_eq_some_iff.1 hread
    exact h ⟨l, way, argument⟩ rest ⟨hway, hne, hchars, hnamed⟩ heq

/-- Some literals are found in every row. -/
theorem exists_finds (inWord : Bool) (cs : List Char) : ∃ os, Finds inWord cs os := by
  induction hn : cs.length using Nat.strongRecOn generalizing inWord cs with
  | _ n ih =>
  subst hn
  cases cs with
  | nil => exact ⟨[], .done⟩
  | cons c cs =>
    by_cases hfree : inWord = false →
      ∀ (o : Occurrence) (rest : List Char), o.Fits → c :: cs ≠ o.text ++ rest
    · obtain ⟨os, finds⟩ := ih cs.length (by simp) (isWord c) cs rfl
      exact ⟨os, .pass hfree finds⟩
    · push Not at hfree
      obtain ⟨rfl, o, rest, fits, heq⟩ := hfree
      have hlength : rest.length < (c :: cs).length := by
        simp [heq, Occurrence.text, Spelling.write]
        omega
      obtain ⟨os, finds⟩ := ih rest.length hlength false rest rfl
      exact ⟨o :: os, heq ▸ .literal fits finds⟩

/-- The literals that are found are those that are read. -/
theorem Finds.readFrom_eq (finds : Finds inWord cs os) :
    readFrom inWord 0 cs = os.map (·.literal) := by
  induction finds with
  | done => rfl
  | literal fits _ ih =>
    rw [readFrom_of_readLiteral? (Occurrence.readLiteral?_text fits _), ih, List.map_cons]
  | @pass inWord c cs os hfree _ ih =>
    cases inWord with
    | true => rw [readFrom, if_pos rfl, ih]
    | false =>
      have hnone : readLiteral? (c :: cs) = none := readLiteral?_eq_none_iff.2 (hfree rfl)
      rw [readFrom, if_neg Bool.false_ne_true, hnone]
      exact ih

/-! ## Literals of words -/

/-- The literals that are read in each word on its own, the first word having begun already. -/
def readWords (inWord : Bool) (cs : List Char) : List Literal :=
  readFrom inWord 0 (cs.takeWhile (!isBlank ·)) ++
    (wordChars (cs.dropWhile (!isBlank ·))).flatMap (readFrom false 0)

theorem flatMap_wordChars (cs : List Char) :
    (wordChars cs).flatMap (readFrom false 0) = readWords false cs := by
  cases cs with
  | nil => rfl
  | cons c cs =>
    cases hc : isBlank c with
    | true => simp [readWords, hc, readFrom]
    | false => simp [readWords, hc, wordChars_cons hc]

/-- A word ends at a blank. -/
theorem readWords_cons_of_isBlank (hc : isBlank c = true) (cs : List Char) :
    readWords inWord (c :: cs) = readWords false cs := by
  rw [← flatMap_wordChars, ← wordChars_cons_blank hc]
  simp [readWords, hc, readFrom]

theorem readWords_append (hfront : ∀ c ∈ front, isBlank c = false) (rest : List Char) :
    readWords inWord (front ++ rest) =
      readFrom inWord 0 (front ++ rest.takeWhile (!isBlank ·)) ++
        (wordChars (rest.dropWhile (!isBlank ·))).flatMap (readFrom false 0) := by
  have hword : ∀ c ∈ front, (!isBlank c) = true := fun c hc => by rw [hfront c hc, Bool.not_false]
  rw [readWords, List.takeWhile_append_of_pos hword, List.dropWhile_append_of_pos hword]

/-! ## Where no literal ends -/

theorem close_mem_text (o : Occurrence) : ')' ∈ o.text := by
  simp [Occurrence.text, Spelling.write]

/-- Without a closing parenthesis there is no literal. -/
theorem readFrom_of_not_mem (h : ')' ∉ cs) : readFrom inWord 0 cs = [] := by
  obtain ⟨os, finds⟩ := exists_finds inWord cs
  rw [finds.readFrom_eq]
  induction finds with
  | done => rfl
  | @literal o => exact absurd (List.mem_append_left _ (close_mem_text o)) h
  | pass _ _ ih => exact ih (List.not_mem_of_not_mem_cons h)

theorem mem_of_mem_takeWhile_append {d : Char} (hc : isBlank c = true)
    (h : d ∈ (front ++ c :: rest).takeWhile (!isBlank ·)) : d ∈ front := by
  induction front with
  | nil => simp [hc] at h
  | cons e front ih =>
    rw [List.cons_append, List.takeWhile_cons] at h
    split at h
    · rcases List.mem_cons.1 h with rfl | h
      · exact List.mem_cons_self
      · exact List.mem_cons_of_mem e (ih h)
    · cases h

/-- Words without a closing parenthesis say nothing. -/
theorem readWords_append_of_not_mem (h : ')' ∉ front) (hc : isBlank c = true) (rest : List Char) :
    readWords inWord (front ++ c :: rest) = readWords false rest := by
  induction front generalizing inWord with
  | nil => exact readWords_cons_of_isBlank hc rest
  | cons d front ih =>
    have hfront : ')' ∉ front := List.not_mem_of_not_mem_cons h
    cases hd : isBlank d with
    | true => rw [List.cons_append, readWords_cons_of_isBlank hd, ih hfront]
    | false =>
      have htake : ')' ∉ (front ++ c :: rest).takeWhile (!isBlank ·) := fun hmem =>
        hfront (mem_of_mem_takeWhile_append hc hmem)
      have hword : ')' ∉ d :: (front ++ c :: rest).takeWhile (!isBlank ·) := by
        simp only [List.mem_cons, not_or] at h ⊢
        exact ⟨h.1, htake⟩
      have hrest : readWords false (front ++ c :: rest) = _ := ih hfront
      rw [readWords, readFrom_of_not_mem htake] at hrest
      rw [List.cons_append, readWords]
      simp only [hd, Bool.not_false, List.takeWhile_cons_of_pos,
        List.dropWhile_cons_of_pos]
      rw [readFrom_of_not_mem hword]
      exact hrest

/-- A closing parenthesis without an opening one ends no literal. -/
theorem readFrom_append_close (h : ∀ c ∈ front, isArgumentChar c = true) (rest : List Char) :
    readFrom inWord 0 (front ++ ')' :: rest) = readFrom false 0 rest := by
  have hfree (front : List Char) (h : ∀ c ∈ front, isArgumentChar c = true) :
      readLiteral? (front ++ ')' :: rest) = none := by
    rw [readLiteral?_eq_none_iff]
    intro o behind fits heq
    rw [Occurrence.text, Spelling.write] at heq
    have hclose : ∀ c ∈ (')' :: rest).head?, isArgumentChar c = false := by
      rintro c ⟨⟩
      decide
    have hopen (cs : List Char) : ∀ c ∈ ('(' :: cs).head?, isArgumentChar c = false := by
      rintro c ⟨⟩
      decide
    have hfront := (span_append h hclose).2
    rw [heq] at hfront
    simp only [List.append_assoc, List.cons_append] at hfront
    rw [(span_append (LabelStatus.letters_words fits.way.tag) (hopen _)).2] at hfront
    cases hfront
  have hword : isWord ')' = false := by decide +kernel
  induction front generalizing inWord with
  | nil =>
    cases inWord with
    | true => simp [readFrom, hword]
    | false =>
      have hnone := hfree [] h
      rw [List.nil_append] at hnone ⊢
      rw [readFrom, if_neg Bool.false_ne_true, hnone, hword]
  | cons c front ih =>
    have hrest : readFrom (isWord c) 0 (front ++ ')' :: rest) = _ :=
      ih fun d hd => h d (List.mem_cons_of_mem c hd)
    cases inWord with
    | true => simpa [readFrom] using hrest
    | false =>
      have hnone := hfree (c :: front) h
      rw [List.cons_append] at hnone ⊢
      simpa [readFrom, hnone] using hrest

theorem readWords_append_close (h : ∀ c ∈ front, isArgumentChar c = true) (rest : List Char) :
    readWords inWord (front ++ ')' :: rest) = readWords false rest := by
  have hblank : ∀ c ∈ front ++ [')'], isBlank c = false := by
    intro c hc
    rcases List.mem_append.1 hc with hc | hc
    · exact isBlank_of_isArgumentChar (h c hc)
    · rw [List.mem_singleton.1 hc]
      decide
  have happend : front ++ ')' :: rest = (front ++ [')']) ++ rest := by simp
  rw [happend, readWords_append hblank, List.append_assoc, List.singleton_append,
    readFrom_append_close h, readWords]

/-! ## Literals with and without blanks -/

/-- The words of a literal with blanks say nothing. -/
theorem readWords_of_not_isTight (fits : o.Fits) (h : o.isTight = false) (rest : List Char) :
    readWords false (o.text ++ rest) = readWords false rest := by
  obtain ⟨l, ⟨tag, before, after⟩, argument⟩ := o
  have hblank {gap : List Char} (hgap : ∀ c ∈ gap, isBlank c = true) : ')' ∉ gap := fun hmem =>
    absurd (hgap _ hmem) (by decide)
  have htag : ')' ∉ tag := fun hmem => absurd (LabelStatus.letters_words fits.way.tag _ hmem)
    (by decide)
  have hargument : ')' ∉ argument := fun hmem => absurd (fits.chars _ hmem) (by decide)
  rcases List.eq_nil_or_concat' after with rfl | ⟨gap, c, rfl⟩
  · rcases List.eq_nil_or_concat' before with rfl | ⟨gap, c, rfl⟩
    · simp [Occurrence.isTight] at h
    · -- The argument is the first piece that is left, with the closing parenthesis.
      have hgap := fits.way.before
      simp only [List.forall_mem_append, List.forall_mem_singleton] at hgap
      have hfront : ')' ∉ tag ++ '(' :: gap := by
        simp [htag, hblank hgap.1]
      have hwords : readWords false ((tag ++ '(' :: gap) ++ c :: (argument ++ ')' :: rest)) =
          readWords false rest := by
        rw [readWords_append_of_not_mem hfront hgap.2, readWords_append_close fits.chars]
      simpa [Occurrence.text, Spelling.write] using hwords
  · have hgap := fits.way.after
    simp only [List.forall_mem_append, List.forall_mem_singleton] at hgap
    have hfront : ')' ∉ tag ++ '(' :: before ++ argument ++ gap := by
      simp [htag, hargument, hblank hgap.1, hblank fits.way.before]
    have hclose : readWords false ([] ++ ')' :: rest) = readWords false rest :=
      readWords_append_close (List.forall_mem_nil _) rest
    have hwords : readWords false ((tag ++ '(' :: before ++ argument ++ gap) ++ c :: ')' :: rest) =
        readWords false rest := by
      rw [readWords_append_of_not_mem hfront hgap.2]
      exact hclose
    simpa [Occurrence.text, Spelling.write] using hwords

/-- A literal without blanks is read in its word. -/
theorem readWords_of_isTight (fits : o.Fits) (h : o.isTight = true) (rest : List Char) :
    readWords false (o.text ++ rest) = o.literal :: readWords false rest := by
  have hblank : ∀ c ∈ o.text, isBlank c = false := by
    obtain ⟨l, ⟨tag, before, after⟩, argument⟩ := o
    simp only [Occurrence.isTight, Bool.and_eq_true, List.isEmpty_iff] at h
    obtain ⟨rfl, rfl⟩ := h
    have htag := LabelStatus.letters_words fits.way.tag
    intro c hc
    simp only [Occurrence.text, Spelling.write, List.append_nil, List.mem_append, List.mem_cons,
      List.not_mem_nil, or_false] at hc
    rcases hc with ((hc | rfl) | hc) | rfl
    · exact isBlank_of_isArgumentChar (htag c hc)
    · decide
    · exact isBlank_of_isArgumentChar (fits.chars c hc)
    · decide
  rw [readWords_append hblank, readFrom_of_readLiteral? (o.readLiteral?_text fits _),
    readWords,
    List.cons_append]

/-- The words of a row have the literals that are written without blanks. -/
theorem Finds.readWords_eq (finds : Finds inWord cs os) :
    readWords inWord cs = (os.filter (·.isTight)).map (·.literal) := by
  induction finds with
  | done => rfl
  | @literal o rest os fits _ ih =>
    cases htight : o.isTight with
    | true => rw [readWords_of_isTight fits htight, ih, List.filter_cons_of_pos htight,
        List.map_cons]
    | false =>
      have hloose : ¬o.isTight = true := by simp [htight]
      rw [readWords_of_not_isTight fits htight, ih, List.filter_cons_of_neg hloose]
  | @pass inWord c cs os hfree _ ih =>
    rw [← ih]
    cases hc : isBlank c with
    | true => rw [readWords_cons_of_isBlank hc, isWord_of_isBlank hc]
    | false =>
      rw [readWords, readWords]
      simp only [hc, Bool.not_false, List.takeWhile_cons_of_pos, List.dropWhile_cons_of_pos]
      cases inWord with
      | true => rw [readFrom, if_pos rfl]
      | false =>
        -- A literal of the word would be one of the row.
        have hnone : readLiteral? (c :: cs.takeWhile (!isBlank ·)) = none := by
          rw [readLiteral?_eq_none_iff]
          intro o rest fits heq
          refine hfree rfl o (rest ++ cs.dropWhile (!isBlank ·)) fits ?_
          rw [← List.append_assoc, ← heq, List.cons_append, List.takeWhile_append_dropWhile]
        rw [readFrom, if_neg Bool.false_ne_true, hnone]

/-- What the words of a row say together. -/
theorem Finds.flatMap_parse_words {row : String} (finds : Finds false row.toList os) :
    (words row).flatMap parse = (os.filter (·.isTight)).map (·.literal) := by
  rw [← finds.readWords_eq, ← flatMap_wordChars, words, List.flatMap_map]
  simp [parse]

end Labeling

/-! ## Requests -/

namespace FilterRequest

open Labeling

theorem constraintLines_eq_nil_iff {text : String} :
    constraintLines text = [] ↔ ∀ line ∈ lines text, isBlankText line = true := by
  simp [constraintLines, trim_eq_empty_iff]

/-- The pieces of a row in a request have the literals of the row that are written without blanks,
in the same order, and no others.  So the literals are those of the row if and only if none of
them is written with blanks inside its parentheses. -/
theorem make_pieces (rows : List String) (constraints : String) (hrows : rows ≠ [])
    (hconstraints : ∃ line ∈ lines constraints, isBlankText line = false) :
    ∃ r, make rows constraints = .ok r ∧ List.Forall₂ (fun row pieces =>
      ∃ os, Finds false row.toList os ∧ parse row = os.map (·.literal) ∧
        pieces.flatMap parse = (os.filter (·.isTight)).map (·.literal) ∧
        (pieces.flatMap parse).Sublist (parse row) ∧
        (pieces.flatMap parse = parse row ↔ ∀ o ∈ os, o.isTight = true)) rows r.labelings := by
  have hlines : constraintLines constraints ≠ [] := by
    obtain ⟨line, hline, hblank⟩ := hconstraints
    intro hnil
    rw [constraintLines_eq_nil_iff.1 hnil line hline] at hblank
    cases hblank
  refine ⟨⟨rows.map words, constraintLines constraints⟩, ?_, ?_⟩
  · rw [make, if_neg hrows, if_neg hlines]
  · rw [List.forall₂_map_right_iff]
    refine List.forall₂_same.2 fun row _ => ?_
    obtain ⟨os, finds⟩ := exists_finds false row.toList
    have hparse : parse row = os.map (·.literal) := finds.readFrom_eq
    refine ⟨os, finds, hparse, finds.flatMap_parse_words, ?_, ?_⟩
    · rw [finds.flatMap_parse_words, hparse]
      exact List.filter_sublist.map _
    · rw [finds.flatMap_parse_words, hparse]
      constructor
      · intro heq
        have hlength := congrArg List.length heq
        rw [List.length_map, List.length_map] at hlength
        exact List.length_filter_eq_length_iff.1 hlength
      · intro htight
        rw [List.filter_eq_self.2 htight]

/-- Two literals without a blank between them stay in one piece, and the one with blanks inside is
lost. -/
theorem make_pieces_mixed :
    ∃ r, make ["IN(A) un( c )ou(b)in(d)"] "\n in(a)" = .ok r ∧
      (∃ pieces ∈ r.labelings, (pieces.flatMap parse).Sublist (parse "IN(A) un( c )ou(b)in(d)")) ∧
      r.labelings.map (·.flatMap parse) = [[⟨.accepted, "a"⟩, ⟨.rejected, "b"⟩, ⟨.accepted, "d"⟩]] := by
  have hconstraints : ∃ line ∈ lines "\n in(a)", isBlankText line = false :=
    ⟨" in(a)", by decide +kernel, by decide +kernel⟩
  obtain ⟨r, hmake, hpieces⟩ := make_pieces ["IN(A) un( c )ou(b)in(d)"] "\n in(a)"
    (List.cons_ne_nil _ _) hconstraints
  obtain rfl : r = ⟨[["IN(A)", "un(", "c", ")ou(b)in(d)"]], ["in(a)"]⟩ :=
    Except.ok.inj (hmake.symm.trans (by decide +kernel))
  obtain ⟨⟨os, -, -, -, hsublist, -⟩, -⟩ := List.forall₂_cons.1 hpieces
  exact ⟨_, hmake, ⟨_, List.mem_singleton.2 rfl, hsublist⟩, by decide +kernel⟩

/-- The only literal of a row is lost when it is written with blanks. -/
theorem spaced_literal_lost :
    ∃ r, make ["un( c )"] "in(a)" = .ok r ∧
      r.labelings.map (·.flatMap parse) ≠ ["un( c )"].map parse :=
  ⟨⟨[["un(", "c", ")"]], ["in(a)"]⟩, by decide +kernel, by decide +kernel⟩

end FilterRequest

end Argumentation
