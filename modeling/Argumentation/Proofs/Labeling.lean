import Argumentation.Labeling
import Argumentation.Proofs.Text.Lowercase
import Argumentation.Proofs.Text.Marks
import Argumentation.Proofs.Text.Words

/-!
# Rows of literals

A literal is written with one of the tags of its status in letters of either case, and with its
argument between parentheses and blanks (`Spelling`).  What is found in front of some characters
is what is written there (`readLiteral?_eq_some_iff`), and a row is searched behind each literal
that was found (`readFrom_of_readLiteral?`).

A row that is written is read as it is written (`parse_of_isRow`), and it makes no difference to
any row how its words are spaced (`parse_words`).
-/

namespace Argumentation

open Text

/-! ## Blanks, words and tags -/

theorem Text.wordRanges_apart : (blankRanges.all fun r => wordRanges.all fun s =>
    Nat.blt r.2 s.1 || Nat.blt s.2 r.1) = true := by
  decide +kernel

/-- No blank is a word character. -/
theorem Text.isWord_of_isBlank {c : Char} (h : isBlank c = true) : isWord c = false := by
  rw [Bool.eq_false_iff]
  intro hword
  obtain ⟨r, hr, hrlo, hrhi⟩ := memRanges_iff.1 h
  obtain ⟨s, hs, hslo, hshi⟩ := memRanges_iff.1 hword
  have hapart := List.all_eq_true.1 (List.all_eq_true.1 wordRanges_apart r hr) s hs
  rw [Bool.or_eq_true, Nat.blt_eq, Nat.blt_eq] at hapart
  omega

theorem isBlank_lowerAscii (c : Char) : isBlank (lowerAscii c) = isBlank c := by
  unfold lowerAscii
  split
  · next h =>
    have hlo : 0x41 ≤ c.toNat := h.1
    have hhi : c.toNat ≤ 0x5A := h.2
    have hsmall : isAlphanumeric (Char.ofNat (c.toNat + 32)) = true := by
      rw [isAlphanumeric_iff, toNat_ofNat (Or.inl (by omega))]
      omega
    have hcapital : isAlphanumeric c = true := isAlphanumeric_iff.2 (by omega)
    rw [isBlank_of_isAlphanumeric hsmall, isBlank_of_isAlphanumeric hcapital]
  · rfl

/-- The tags of a status. -/
def LabelStatus.words : LabelStatus → List String
  | .accepted => ["in"]
  | .rejected => ["out", "ou"]
  | .undecided => ["undecided", "un"]

theorem LabelStatus.mem_tags_iff {word : String} {status : LabelStatus} :
    (word, status) ∈ tags ↔ word ∈ status.words := by
  cases status <;> simp [tags, words]

/-- No tag is one of two statuses. -/
theorem LabelStatus.eq_of_mem_words {word : String} {s t : LabelStatus} (hs : word ∈ s.words)
    (ht : word ∈ t.words) : s = t := by
  have hall : ∀ s t : LabelStatus, ∀ word ∈ s.words, word ∈ t.words → s = t := by
    intro s t
    cases s <;> cases t <;> decide
  exact hall s t word hs ht

namespace Labeling

theorem isArgumentChar_of_isBlank {c : Char} (h : isBlank c = true) : isArgumentChar c = false := by
  simp [isArgumentChar, h]

theorem isBlank_of_isArgumentChar {c : Char} (h : isArgumentChar c = true) : isBlank c = false := by
  simp only [isArgumentChar, Bool.and_eq_true, Bool.not_eq_true'] at h
  exact h.2

theorem isArgumentChar_of_lowerAscii {c : Char} (h : isArgumentChar (lowerAscii c) = true) :
    isArgumentChar c = true := by
  have hblank : isBlank c = false := isBlank_lowerAscii c ▸ isBlank_of_isArgumentChar h
  have hparen : c ≠ '(' ∧ c ≠ ')' := by
    constructor <;> rintro rfl <;> exact absurd h (by decide)
  simp [isArgumentChar, hparen, hblank]

end Labeling

/-- The letters of a tag, in either case, are neither blanks nor parentheses. -/
theorem LabelStatus.letters_words {tag : List Char} {s : LabelStatus}
    (h : String.ofList (tag.map lowerAscii) ∈ s.words) :
    ∀ c ∈ tag, Labeling.isArgumentChar c = true := by
  have hall : ∀ s : LabelStatus, ∀ word ∈ s.words,
      word.toList.all Labeling.isArgumentChar = true := by
    intro s
    cases s <;> decide +kernel
  intro c hc
  have hsmall : lowerAscii c ∈ (String.ofList (tag.map lowerAscii)).toList := by
    rw [String.toList_ofList]
    exact List.mem_map_of_mem hc
  exact Labeling.isArgumentChar_of_lowerAscii (List.all_eq_true.1 (hall s _ h) _ hsmall)

namespace Labeling

/-! ## Written literals -/

/-- How a literal is written around its argument. -/
structure Spelling where
  /-- The tag. -/
  tag : List Char
  /-- What stands in front of the argument. -/
  before : List Char
  /-- What stands behind the argument. -/
  after : List Char

/-- Whether a status can be written in a way. -/
structure Spelling.Fits (way : Spelling) (status : LabelStatus) : Prop where
  /-- In small letters, the tag is one of the status. -/
  tag : String.ofList (way.tag.map lowerAscii) ∈ status.words
  /-- Only blanks stand in front of the argument. -/
  before : ∀ c ∈ way.before, isBlank c = true
  /-- Only blanks stand behind the argument. -/
  after : ∀ c ∈ way.after, isBlank c = true

/-- An argument that is written in a way. -/
def Spelling.write (way : Spelling) (argument : List Char) : List Char :=
  way.tag ++ '(' :: way.before ++ argument ++ way.after ++ [')']

/-! ## Tags -/

variable {cs rest : List Char} {status : LabelStatus} {l : Literal}

theorem stripWord?_eq_some_iff {word : List Char} :
    stripWord? word cs = some rest ↔ ∃ tag : List Char, tag.map lowerAscii = word ∧
      cs = tag ++ rest := by
  induction word generalizing cs with
  | nil => simp [stripWord?, eq_comm]
  | cons w word ih =>
    cases cs with
    | nil =>
      refine ⟨fun h => (nomatch h), ?_⟩
      rintro ⟨tag, htag, heq⟩
      rw [(List.append_eq_nil_iff.1 heq.symm).1] at htag
      cases htag
    | cons c cs =>
      rw [stripWord?]
      split
      · next hw =>
        rw [ih]
        constructor
        · rintro ⟨tag, rfl, rfl⟩
          exact ⟨c :: tag, by rw [List.map_cons, hw], rfl⟩
        · rintro ⟨tag, htag, heq⟩
          cases tag with
          | nil => cases htag
          | cons d tag =>
            rw [List.map_cons, List.cons.injEq] at htag
            rw [List.cons_append, List.cons.injEq] at heq
            exact ⟨tag, htag.2, heq.2⟩
      · next hw =>
        refine ⟨fun h => (nomatch h), ?_⟩
        rintro ⟨tag, htag, heq⟩
        cases tag with
        | nil => cases htag
        | cons d tag =>
          rw [List.map_cons, List.cons.injEq] at htag
          rw [List.cons_append, List.cons.injEq] at heq
          exact absurd (heq.1 ▸ htag.1) hw

theorem stripTag?_eq_some_iff {tag : String × LabelStatus} :
    stripTag? cs tag = some (status, rest) ↔ tag.2 = status ∧
      ∃ front : List Char, front.map lowerAscii = tag.1.toList ∧ cs = front ++ '(' :: rest := by
  unfold stripTag?
  split
  · next ds hstrip =>
    obtain ⟨front, hfront, rfl⟩ := stripWord?_eq_some_iff.1 hstrip
    rw [Option.some.injEq, Prod.mk.injEq]
    refine and_congr_right fun _ => ⟨?_, ?_⟩
    · rintro rfl
      exact ⟨front, hfront, rfl⟩
    · rintro ⟨front', hfront', heq⟩
      have hlength : front.length = front'.length := by
        rw [← List.length_map lowerAscii, hfront, ← hfront', List.length_map]
      exact (List.cons.inj (List.append_inj heq hlength).2).2
  · next hnone =>
    refine ⟨fun h => (nomatch h), ?_⟩
    rintro ⟨-, front, hfront, heq⟩
    exact absurd (stripWord?_eq_some_iff.2 ⟨front, hfront, heq⟩) (hnone rest)

/-- The tags are tried one after the other, but only one of them can be written in front. -/
theorem findSome?_stripTag?_eq_some_iff :
    LabelStatus.tags.findSome? (stripTag? cs) = some (status, rest) ↔
      ∃ tag : List Char, String.ofList (tag.map lowerAscii) ∈ status.words ∧
        cs = tag ++ '(' :: rest := by
  have hsound {status : LabelStatus} {rest : List Char}
      (h : LabelStatus.tags.findSome? (stripTag? cs) = some (status, rest)) :
      ∃ tag : List Char, String.ofList (tag.map lowerAscii) ∈ status.words ∧
        cs = tag ++ '(' :: rest := by
    obtain ⟨tag, htag, hstrip⟩ := List.exists_of_findSome?_eq_some h
    obtain ⟨rfl, front, hfront, heq⟩ := stripTag?_eq_some_iff.1 hstrip
    refine ⟨front, ?_, heq⟩
    rw [hfront, String.ofList_toList]
    exact LabelStatus.mem_tags_iff.1 htag
  refine ⟨hsound, ?_⟩
  rintro ⟨tag, htag, heq⟩
  have hstrip : stripTag? cs (String.ofList (tag.map lowerAscii), status) = some (status, rest) :=
    stripTag?_eq_some_iff.2 ⟨rfl, tag, by rw [String.toList_ofList], heq⟩
  cases hfound : LabelStatus.tags.findSome? (stripTag? cs) with
  | none =>
    have hnone := List.findSome?_eq_none_iff.1 hfound _ (LabelStatus.mem_tags_iff.2 htag)
    rw [hstrip] at hnone
    cases hnone
  | some found =>
    obtain ⟨status', rest'⟩ := found
    obtain ⟨tag', htag', heq'⟩ := hsound hfound
    have hfree {tag : List Char} {s : LabelStatus}
        (h : String.ofList (tag.map lowerAscii) ∈ s.words) : '(' ∉ tag := fun hmem =>
      absurd (LabelStatus.letters_words h '(' hmem) (by decide)
    obtain ⟨rfl, rfl⟩ := append_mark_inj (hfree htag) (hfree htag') (heq.symm.trans heq')
    rw [LabelStatus.eq_of_mem_words htag htag']

/-! ## Literals in front -/

/-- What is written around an argument falls apart again. -/
theorem Spelling.Fits.span {way : Spelling} (fits : way.Fits status) {argument : List Char}
    (hne : argument ≠ []) (hargument : ∀ c ∈ argument, isArgumentChar c = true)
    (rest : List Char) :
    let inner := way.before ++ (argument ++ (way.after ++ ')' :: rest))
    (inner.dropWhile isBlank).takeWhile isArgumentChar = argument ∧
      ((inner.dropWhile isBlank).dropWhile isArgumentChar).dropWhile isBlank = ')' :: rest := by
  intro inner
  have hafter : (way.after ++ ')' :: rest).dropWhile isBlank = ')' :: rest :=
    (span_append fits.after fun c hc => by cases hc; decide).2
  have hhead : ∀ c ∈ (way.after ++ ')' :: rest).head?, isArgumentChar c = false := by
    cases hways : way.after with
    | nil =>
      rintro c ⟨⟩
      decide
    | cons d ds =>
      have hd : isBlank d = true := fits.after d (hways ▸ List.mem_cons_self)
      rintro c ⟨⟩
      exact isArgumentChar_of_isBlank hd
  obtain ⟨htake, hdrop⟩ := span_append hargument hhead
  have hbefore : inner.dropWhile isBlank = argument ++ (way.after ++ ')' :: rest) := by
    refine (span_append fits.before fun c hc => ?_).2
    obtain ⟨d, ds, rfl⟩ := List.exists_cons_of_ne_nil hne
    cases hc
    exact isBlank_of_isArgumentChar (hargument c List.mem_cons_self)
  rw [hbefore, htake, hdrop, hafter]
  exact ⟨rfl, rfl⟩

/-- A literal is found in front if and only if it is written there. -/
theorem readLiteral?_eq_some_iff :
    readLiteral? cs = some (l, rest) ↔ ∃ (way : Spelling) (argument : List Char),
      way.Fits l.status ∧ argument ≠ [] ∧ (∀ c ∈ argument, isArgumentChar c = true) ∧
        l.argument = canonicalId (String.ofList argument) ∧ cs = way.write argument ++ rest := by
  constructor
  · intro h
    simp only [readLiteral?, Option.bind_eq_bind, Option.bind_eq_some_iff] at h
    obtain ⟨⟨status, inner⟩, htag, h⟩ := h
    obtain ⟨tag, hword, rfl⟩ := findSome?_stripTag?_eq_some_iff.1 htag
    split at h
    · next behind hclose =>
      split at h
      · cases h
      · next hne =>
        cases h
        let after := ((inner.dropWhile isBlank).dropWhile isArgumentChar).takeWhile isBlank
        have hinner : inner = inner.takeWhile isBlank ++
            ((inner.dropWhile isBlank).takeWhile isArgumentChar ++ (after ++ ')' :: rest)) := by
          rw [← hclose, List.takeWhile_append_dropWhile, List.takeWhile_append_dropWhile,
            List.takeWhile_append_dropWhile]
        refine ⟨⟨tag, inner.takeWhile isBlank, after⟩,
          (inner.dropWhile isBlank).takeWhile isArgumentChar, ⟨hword, ?_, ?_⟩, hne, ?_, rfl, ?_⟩
        · exact List.all_eq_true.1 List.all_takeWhile
        · exact List.all_eq_true.1 List.all_takeWhile
        · exact List.all_eq_true.1 List.all_takeWhile
        · simpa [Spelling.write] using hinner
    · cases h
  · rintro ⟨way, argument, fits, hne, hargument, hcanonical, rfl⟩
    have hwrite : way.write argument ++ rest =
        way.tag ++ '(' :: (way.before ++ (argument ++ (way.after ++ ')' :: rest))) := by
      simp [Spelling.write]
    have htag := findSome?_stripTag?_eq_some_iff.2 ⟨way.tag, fits.tag, hwrite⟩
    obtain ⟨hinner, hclose⟩ := fits.span hne hargument rest
    simp only [readLiteral?, htag, Option.bind_eq_bind, Option.bind_some, hinner, hclose,
      if_neg hne, ← hcanonical]

/-! ## Rows -/

/-- No literal begins with a blank. -/
theorem readLiteral?_of_isBlank {c : Char} (hc : isBlank c = true) (cs : List Char) :
    readLiteral? (c :: cs) = none := by
  rw [Option.eq_none_iff_forall_ne_some]
  rintro ⟨l, rest⟩ hread
  obtain ⟨way, argument, fits, -, -, -, heq⟩ := readLiteral?_eq_some_iff.1 hread
  rw [Spelling.write] at heq
  cases htag : way.tag with
  | nil =>
    rw [htag] at heq
    cases heq
    exact absurd hc (by decide)
  | cons d tag =>
    rw [htag] at heq
    cases heq
    have hletter := LabelStatus.letters_words fits.tag c (htag ▸ List.mem_cons_self)
    rw [isArgumentChar_of_isBlank hc] at hletter
    cases hletter

theorem readFrom_cons_of_isBlank {inWord : Bool} {c : Char} (hc : isBlank c = true)
    (cs : List Char) : readFrom inWord 0 (c :: cs) = readFrom false 0 cs := by
  have hword : isWord c = false := isWord_of_isBlank hc
  cases inWord with
  | true => rw [readFrom, if_pos rfl, hword]
  | false =>
    rw [readFrom, if_neg Bool.false_ne_true, readLiteral?_of_isBlank hc, hword]

/-- Blanks between literals are passed over. -/
theorem readFrom_append_of_isBlank {gap : List Char} (hgap : ∀ c ∈ gap, isBlank c = true)
    (cs : List Char) : readFrom false 0 (gap ++ cs) = readFrom false 0 cs := by
  induction gap with
  | nil => rfl
  | cons c gap ih =>
    rw [List.forall_mem_cons] at hgap
    rw [List.cons_append, readFrom_cons_of_isBlank hgap.1, ih hgap.2]

/-- The characters of a literal that was read are skipped. -/
theorem readFrom_skip (inWord : Bool) (front : List Char) (c : Char) (rest : List Char) :
    readFrom inWord (front.length + 1) (front ++ c :: rest) = readFrom (isWord c) 0 rest := by
  induction front generalizing inWord with
  | nil => rfl
  | cons d front ih => exact ih (isWord d)

/-- Behind a literal that was found, the rest of the row is read like a row. -/
theorem readFrom_of_readLiteral? (h : readLiteral? cs = some (l, rest)) :
    readFrom false 0 cs = l :: readFrom false 0 rest := by
  obtain ⟨way, argument, -, -, -, -, heq⟩ := readLiteral?_eq_some_iff.1 h
  obtain ⟨c, front, hfront⟩ : ∃ c front,
      way.tag ++ '(' :: way.before ++ argument ++ way.after = c :: front :=
    List.exists_cons_of_ne_nil (by simp)
  have hcs : cs = c :: (front ++ ')' :: rest) := by
    rw [heq, Spelling.write, hfront]
    simp
  subst hcs
  have hskip : (front ++ ')' :: rest).length - rest.length = front.length + 1 := by
    rw [List.length_append, List.length_cons]
    omega
  have hword : isWord ')' = false := by decide +kernel
  rw [readFrom, if_neg Bool.false_ne_true, h]
  simp only
  rw [hskip, readFrom_skip, hword]

/-! ## Rows that are written -/

/-- Rows in which some literals are written with blanks between them. -/
inductive IsRow : List Literal → List Char → Prop
  /-- No literal at all. -/
  | empty : IsRow [] []
  /-- A single literal. -/
  | single {way : Spelling} {l : Literal} : way.Fits l.status →
    IsRow [l] (way.write l.argument.toList)
  /-- A literal in front of others. -/
  | more {way : Spelling} {l m : Literal} {ls : List Literal} {gap row : List Char} :
    way.Fits l.status → gap ≠ [] → (∀ c ∈ gap, isBlank c = true) → IsRow (m :: ls) row →
      IsRow (l :: m :: ls) (way.write l.argument.toList ++ gap ++ row)

/-- Whether a text consists of small ASCII letters and digits. -/
def IsPlainName (s : String) : Prop :=
  s ≠ "" ∧ ∀ c ∈ s.toList, isDigit c = true ∨ ('a' ≤ c ∧ c ≤ 'z')

theorem isPlainName_iff {s : String} : IsPlainName s ↔
    s ≠ "" ∧ (s.toList.all fun c => isDigit c || ('a' ≤ c && c ≤ 'z')) = true := by
  simp [IsPlainName]

instance (s : String) : Decidable (IsPlainName s) := decidable_of_iff _ isPlainName_iff.symm

theorem IsPlainName.isAlphanumeric {s : String} (h : IsPlainName s) :
    ∀ c ∈ s.toList, isAlphanumeric c = true := by
  intro c hc
  simp only [Argumentation.isAlphanumeric, Bool.or_eq_true, Bool.and_eq_true, decide_eq_true_eq]
  obtain hdigit | hletter := h.2 c hc
  · exact .inl (.inl hdigit)
  · exact .inl (.inr hletter)

theorem IsPlainName.isArgumentChar {s : String} (h : IsPlainName s) :
    ∀ c ∈ s.toList, Labeling.isArgumentChar c = true := by
  intro c hc
  have halpha := h.isAlphanumeric c hc
  have hparen : c ≠ '(' ∧ c ≠ ')' := by
    constructor <;> rintro rfl <;> exact absurd halpha (by decide)
  simp [Labeling.isArgumentChar, hparen, isBlank_of_isAlphanumeric halpha]

/-- A plain name is its own canonical form. -/
theorem IsPlainName.isCanonical {s : String} (h : IsPlainName s) : IsCanonical s := by
  have hsmall : ∀ c ∈ s.toList, lowerAscii c = c := by
    intro c hc
    rw [lowerAscii, if_neg]
    rintro ⟨hlo, hhi⟩
    obtain hdigit | hletter := h.2 c hc
    · rw [isDigit, Bool.and_eq_true, decide_eq_true_eq, decide_eq_true_eq] at hdigit
      exact absurd (Char.le_trans hlo hdigit.2) (by decide)
    · exact absurd (Char.le_trans hletter.1 hhi) (by decide)
  have hcanonical := canonicalId_ofList h.isAlphanumeric
  rwa [List.map_congr_left hsmall, List.map_id', String.ofList_toList] at hcanonical

/-- A literal that is written is found. -/
theorem readLiteral?_write {way : Spelling} (fits : way.Fits l.status)
    (hname : IsPlainName l.argument) (rest : List Char) :
    readLiteral? (way.write l.argument.toList ++ rest) = some (l, rest) := by
  refine readLiteral?_eq_some_iff.2
    ⟨way, l.argument.toList, fits, ?_, hname.isArgumentChar, ?_, rfl⟩
  · rw [Ne, String.toList_eq_nil_iff]
    exact hname.1
  · rw [String.ofList_toList]
    exact hname.isCanonical.symm

/-- A row is read as it is written. -/
theorem readFrom_of_isRow {ls : List Literal} {row : List Char} (h : IsRow ls row)
    (hnames : ∀ l ∈ ls, IsPlainName l.argument) : readFrom false 0 row = ls := by
  induction h with
  | empty => rfl
  | single fits =>
    have hread := readLiteral?_write fits (hnames _ List.mem_cons_self) []
    rw [List.append_nil] at hread
    exact readFrom_of_readLiteral? hread
  | more fits hne hgap hrow ih =>
    rw [List.forall_mem_cons] at hnames
    rw [List.append_assoc, readFrom_of_readLiteral? (readLiteral?_write fits hnames.1 _),
      readFrom_append_of_isBlank hgap, ih hnames.2]

theorem parse_of_isRow {ls : List Literal} {row : String} (h : IsRow ls row.toList)
    (hnames : ∀ l ∈ ls, IsPlainName l.argument) : parse row = ls :=
  readFrom_of_isRow h hnames

/-! ## Rows that are spaced -/

theorem findSome?_stripTag?_respace (cs : List Char) :
    LabelStatus.tags.findSome? (stripTag? (respace cs)) =
      (LabelStatus.tags.findSome? (stripTag? cs)).map fun r => (r.1, respace r.2) := by
  refine Option.ext fun r => ?_
  obtain ⟨status, rest⟩ := r
  have hfront {tag : List Char} (htag : String.ofList (tag.map lowerAscii) ∈ status.words) :
      ∀ c ∈ tag ++ ['('], isBlank c = false := by
    intro c hc
    obtain hc | hc := List.mem_append.1 hc
    · exact isBlank_of_isArgumentChar (LabelStatus.letters_words htag c hc)
    · rw [List.mem_singleton.1 hc]
      decide
  rw [findSome?_stripTag?_eq_some_iff, Option.map_eq_some_iff]
  constructor
  · rintro ⟨tag, htag, heq⟩
    rw [← List.singleton_append, ← List.append_assoc, respace_eq_append_iff (hfront htag)] at heq
    obtain ⟨inner, rfl, rfl⟩ := heq
    exact ⟨(status, inner), findSome?_stripTag?_eq_some_iff.2 ⟨tag, htag, by simp⟩, rfl⟩
  · rintro ⟨⟨status', inner⟩, hfound, heq⟩
    cases heq
    obtain ⟨tag, htag, rfl⟩ := findSome?_stripTag?_eq_some_iff.1 hfound
    refine ⟨tag, htag, ?_⟩
    rw [← List.singleton_append, ← List.append_assoc, respace_append (hfront htag)]
    simp

/-- An argument in front stays as it is. -/
theorem span_isArgumentChar_respace (cs : List Char) :
    (respace cs).takeWhile isArgumentChar = cs.takeWhile isArgumentChar ∧
      (respace cs).dropWhile isArgumentChar = respace (cs.dropWhile isArgumentChar) := by
  have hargument : ∀ c ∈ cs.takeWhile isArgumentChar, isArgumentChar c = true :=
    List.all_eq_true.1 List.all_takeWhile
  have hsplit : respace cs =
      cs.takeWhile isArgumentChar ++ respace (cs.dropWhile isArgumentChar) := by
    rw [← respace_append fun c hc => isBlank_of_isArgumentChar (hargument c hc),
      List.takeWhile_append_dropWhile]
  have hhead : ∀ c ∈ (respace (cs.dropWhile isArgumentChar)).head?, isArgumentChar c = false := by
    have hstop := List.head?_dropWhile_not isArgumentChar cs
    cases hrest : cs.dropWhile isArgumentChar with
    | nil => exact fun c hc => (nomatch hc)
    | cons d ds =>
      rw [hrest] at hstop
      intro c hc
      cases hd : isBlank d with
      | true =>
        rw [respace_cons_blank hd, separate] at hc
        split at hc
        · cases hc
        · cases hc
          decide
      | false =>
        rw [respace_cons hd] at hc
        cases hc
        simpa using hstop
  rw [hsplit]
  exact span_append hargument hhead

/-- A closing parenthesis behind blanks stays where it is. -/
theorem close_respace (cs argument : List Char) :
    (match (respace cs).dropWhile isBlank with
      | ')' :: rest => if argument = [] then none else some (l, rest)
      | _ => none) =
    Option.map (fun r : Literal × List Char => (r.1, respace r.2))
      (match cs.dropWhile isBlank with
        | ')' :: rest => if argument = [] then none else some (l, rest)
        | _ => none) := by
  have hrespace : (respace cs).dropWhile isBlank = respace (cs.dropWhile isBlank) :=
    trimLeft_respace cs
  rw [hrespace]
  cases hcs : cs.dropWhile isBlank with
  | nil => rfl
  | cons c ds =>
    have hhead : isBlank c = false := head?_dropWhile_isBlank (congrArg List.head? hcs)
    rw [respace_cons hhead]
    by_cases hc : c = ')'
    · subst hc
      simp only
      split <;> rfl
    · simp [hc]

/-- To space a row differently changes what is found in front of it no more than what stands
behind. -/
theorem readLiteral?_respace (cs : List Char) :
    readLiteral? (respace cs) = (readLiteral? cs).map fun r => (r.1, respace r.2) := by
  simp only [readLiteral?, findSome?_stripTag?_respace]
  cases LabelStatus.tags.findSome? (stripTag? cs) with
  | none => rfl
  | some found =>
    obtain ⟨status, inner⟩ := found
    have hbefore : (respace inner).dropWhile isBlank = respace (inner.dropWhile isBlank) :=
      trimLeft_respace inner
    obtain ⟨htake, hdrop⟩ := span_isArgumentChar_respace (inner.dropWhile isBlank)
    simp only [Option.map_some, Option.bind_eq_bind, Option.bind_some, hbefore, htake, hdrop]
    exact close_respace _ _

/-- Blanks in front of a row say nothing. -/
theorem readFrom_trimLeft (cs : List Char) :
    readFrom false 0 (trimLeft cs) = readFrom false 0 cs := by
  have hblank : ∀ c ∈ cs.takeWhile isBlank, isBlank c = true :=
    List.all_eq_true.1 List.all_takeWhile
  rw [← readFrom_append_of_isBlank hblank, trimLeft, List.takeWhile_append_dropWhile]

theorem readFrom_separate (inWord : Bool) (cs : List Char) :
    readFrom inWord 0 (separate cs) = readFrom false 0 cs := by
  rw [← readFrom_trimLeft cs]
  unfold separate
  split
  · next h => rw [h, readFrom, readFrom]
  · rw [readFrom_cons_of_isBlank (by decide)]

theorem readFrom_respace (inWord : Bool) (cs : List Char) :
    readFrom inWord 0 (respace cs) = readFrom inWord 0 cs := by
  induction hn : cs.length using Nat.strongRecOn generalizing inWord cs with
  | _ n ih =>
  subst hn
  cases cs with
  | nil => rfl
  | cons c cs =>
    have hbehind (inWord : Bool) : readFrom inWord 0 (respace cs) = readFrom inWord 0 cs :=
      ih cs.length (Nat.lt_succ_self _) inWord cs rfl
    cases hc : isBlank c with
    | true =>
      rw [respace_cons_blank hc, readFrom_separate, readFrom_cons_of_isBlank hc, hbehind]
    | false =>
      cases inWord with
      | true => rw [respace_cons hc, readFrom, if_pos rfl, readFrom, if_pos rfl, hbehind]
      | false =>
        have hread := readLiteral?_respace (c :: cs)
        cases hfound : readLiteral? (c :: cs) with
        | none =>
          rw [hfound, respace_cons hc] at hread
          rw [respace_cons hc, readFrom, if_neg Bool.false_ne_true, hread, readFrom,
            if_neg Bool.false_ne_true, hfound]
          exact hbehind (isWord c)
        | some found =>
          obtain ⟨l, rest⟩ := found
          have hlength : rest.length < (c :: cs).length := by
            obtain ⟨way, argument, -, -, -, -, heq⟩ := readLiteral?_eq_some_iff.1 hfound
            rw [heq, Spelling.write]
            simp only [List.length_append, List.length_cons]
            omega
          rw [hfound, Option.map_some] at hread
          rw [readFrom_of_readLiteral? hread, readFrom_of_readLiteral? hfound,
            ih rest.length hlength false rest rfl]

/-- It makes no difference how the words of a row are spaced. -/
theorem parse_words (row : String) : parse (String.intercalate " " (words row)) = parse row := by
  rw [parse, toList_intercalate_words, readFrom_respace, readFrom_trimLeft, parse]

/-- Nor do surrounding blanks make a difference. -/
theorem parse_trim (row : String) : parse (trim row) = parse row := by
  rw [parse, toList_trim, trimChars, ← readFrom_respace, respace_trimRight, readFrom_respace,
    readFrom_trimLeft, parse]

end Labeling

end Argumentation
