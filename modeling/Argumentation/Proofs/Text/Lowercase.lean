import Argumentation.Argument
import Argumentation.Proofs.Text.Trimming
import Argumentation.Validation

/-!
# Lower case and canonical identifiers

Lowering a text twice is lowering it once, and so a canonical identifier is its own
canonical form: `canonicalId_canonicalId`.

The argument is one about the table.  No small letter of a stretch is a capital of any
stretch (`caseStretches_apart`), and none is an ASCII capital, a capital with a rule of
its own, a blank or no character at all (`caseStretches_avoid`).  Both are checked
stretch by stretch, as ranges of code points, and not letter by letter.

The identifiers that a description may hold consist of ASCII letters and digits.  For
them lowering goes character by character, so the canonical form of a valid identifier
is valid: `validateIdentifier_canonicalId`.
-/

namespace Argumentation.Text

/-! ## The table -/

/-- Whether no small letter of a stretch lies in a range. -/
def CaseStretch.avoids (r : CaseStretch) (s : Range) : Bool :=
  Nat.blt (r.small + (r.last - r.first)) s.1 || Nat.blt s.2 r.small

/-- Whether no small letter of a stretch is a capital of another one.  Where the two
overlap, both go in steps of two and never meet. -/
def CaseStretch.apart (r q : CaseStretch) : Bool :=
  r.avoids (q.first, q.last) ||
    (Nat.beq q.step 2 && (Nat.beq r.step 2 || Nat.beq r.first r.last) &&
      Nat.beq ((r.small + q.first) % 2) 1)

/-- The code points that no small letter has: the ASCII capitals, the two capitals with
rules of their own and what is no character. -/
def unusedBySmall : List Range :=
  [(0x41, 0x5A), (0x130, 0x130), (0x3A3, 0x3A3), (0xD800, 0xDFFF), (0x110000, 0x200000)]

theorem caseStretches_apart : (caseStretches.all fun r => caseStretches.all r.apart) = true := by
  decide +kernel

theorem caseStretches_avoid :
    (caseStretches.all fun r => (unusedBySmall ++ blankRanges).all r.avoids &&
      blankRanges.all fun s => Nat.blt r.last s.1 || Nat.blt s.2 r.first) = true := by
  decide +kernel

theorem CaseStretch.lower?_eq_some {r : CaseStretch} {n m : Nat} (h : r.lower? n = some m) :
    r.first ≤ n ∧ n ≤ r.last ∧ (n - r.first) % r.step = 0 ∧ m = r.small + (n - r.first) := by
  unfold CaseStretch.lower? at h
  split at h
  · next hn => exact ⟨hn.1, hn.2.1, hn.2.2, (Option.some.inj h).symm⟩
  · cases h

/-- A range that a stretch avoids holds none of its small letters. -/
theorem CaseStretch.not_mem_of_avoids {r : CaseStretch} {s : Range} {n m : Nat}
    (ha : r.avoids s = true) (h : r.lower? n = some m) : ¬(s.1 ≤ m ∧ m ≤ s.2) := by
  obtain ⟨hlo, hhi, -, rfl⟩ := CaseStretch.lower?_eq_some h
  simp only [CaseStretch.avoids, Bool.or_eq_true, Nat.blt_eq] at ha
  omega

/-- A small letter of a stretch is no capital of a stretch that is apart from it. -/
theorem CaseStretch.lower?_lower? {r q : CaseStretch} {n m : Nat} (ha : r.apart q = true)
    (h : r.lower? n = some m) : q.lower? m = none := by
  cases hq : q.lower? m with
  | none => rfl
  | some k =>
    obtain ⟨hqlo, hqhi, hqstep, -⟩ := CaseStretch.lower?_eq_some hq
    rw [CaseStretch.apart, Bool.or_eq_true] at ha
    rcases ha with ha | ha
    · exact absurd ⟨hqlo, hqhi⟩ (CaseStretch.not_mem_of_avoids ha h)
    · obtain ⟨hlo, hhi, hstep, rfl⟩ := CaseStretch.lower?_eq_some h
      simp only [Bool.and_eq_true, Bool.or_eq_true, Nat.beq_eq] at ha
      obtain ⟨⟨htwo, hsteps⟩, hodd⟩ := ha
      rw [htwo] at hqstep
      rcases hsteps with hr | hr
      · rw [hr] at hstep
        omega
      · omega

/-! ## Small letters of single characters -/

/-- A capital beyond ASCII with the stretch it is in. -/
theorem exists_stretch {n m : Nat} (h : caseStretches.findSome? (·.lower? n) = some m) :
    ∃ r ∈ caseStretches, r.lower? n = some m :=
  List.exists_of_findSome?_eq_some h

theorem findSome?_lower?_of_small {n m : Nat} (h : caseStretches.findSome? (·.lower? n) = some m) :
    caseStretches.findSome? (·.lower? m) = none := by
  obtain ⟨r, hr, hlow⟩ := exists_stretch h
  rw [List.findSome?_eq_none_iff]
  intro q hq
  have ha := caseStretches_apart
  rw [List.all_eq_true] at ha
  have hrq := ha r hr
  rw [List.all_eq_true] at hrq
  exact CaseStretch.lower?_lower? (hrq q hq) hlow

theorem not_mem_unused {n m : Nat} (h : caseStretches.findSome? (·.lower? n) = some m)
    {s : Range} (hs : s ∈ unusedBySmall ++ blankRanges) : ¬(s.1 ≤ m ∧ m ≤ s.2) := by
  obtain ⟨r, hr, hlow⟩ := exists_stretch h
  have ha := caseStretches_avoid
  rw [List.all_eq_true] at ha
  have hrs := ha r hr
  rw [Bool.and_eq_true, List.all_eq_true] at hrs
  exact CaseStretch.not_mem_of_avoids (hrs.1 s hs) hlow

/-- The capitals of the table are no blanks. -/
theorem capital_not_blank {c : Char} {m : Nat}
    (h : caseStretches.findSome? (·.lower? c.toNat) = some m) : isBlank c = false := by
  obtain ⟨r, hr, hlow⟩ := exists_stretch h
  obtain ⟨hlo, hhi, -, -⟩ := CaseStretch.lower?_eq_some hlow
  have ha := caseStretches_avoid
  rw [List.all_eq_true] at ha
  have hrs := ha r hr
  rw [Bool.and_eq_true, List.all_eq_true, List.all_eq_true] at hrs
  rw [Bool.eq_false_iff]
  intro hb
  obtain ⟨s, hs, hslo, hshi⟩ := memRanges_iff.1 hb
  have hapart := hrs.2 s hs
  rw [Bool.or_eq_true, Nat.blt_eq, Nat.blt_eq] at hapart
  omega

theorem small_isValidChar {n m : Nat} (h : caseStretches.findSome? (·.lower? n) = some m) :
    m.isValidChar := by
  have hsur := not_mem_unused h (s := (0xD800, 0xDFFF)) (by decide)
  have hbig := not_mem_unused h (s := (0x110000, 0x200000)) (by decide)
  obtain ⟨r, hr, hlow⟩ := exists_stretch h
  obtain ⟨hlo, hhi, -, hm⟩ := CaseStretch.lower?_eq_some hlow
  have hbound : (caseStretches.all fun r => Nat.blt (r.small + (r.last - r.first)) 0x200000) = true := by
    decide +kernel
  rw [List.all_eq_true] at hbound
  have hrb := hbound r hr
  rw [Nat.blt_eq] at hrb
  simp only at hsur hbig
  unfold Nat.isValidChar
  omega

theorem toNat_ofNat {n : Nat} (h : n.isValidChar) : (Char.ofNat n).toNat = n := by
  rw [Char.ofNat, dif_pos h]
  rfl

theorem char_ext {c d : Char} (h : c.toNat = d.toNat) : c = d := by
  rw [← Char.ofNat_toNat c, ← Char.ofNat_toNat d, h]

/-- Whether a character is lowered to itself. -/
structure IsSmall (c : Char) : Prop where
  /-- It is not the capital with two small letters. -/
  ne_sigma : c ≠ 'Σ'
  /-- It is not the capital whose small form has two characters. -/
  ne_dotted : c ≠ 'İ'
  /-- It is its own small letter. -/
  fixed : lowerChar c = c

theorem isSmall_ofNat {n : Nat} (hv : n.isValidChar) (hsigma : n ≠ 0x3A3) (hdotted : n ≠ 0x130)
    (hascii : ¬(0x41 ≤ n ∧ n ≤ 0x5A)) (htable : caseStretches.findSome? (·.lower? n) = none) :
    IsSmall (Char.ofNat n) := by
  have hn : (Char.ofNat n).toNat = n := toNat_ofNat hv
  refine ⟨fun h => hsigma ?_, fun h => hdotted ?_, ?_⟩
  · rw [← hn, h]; rfl
  · rw [← hn, h]; rfl
  · unfold lowerChar
    rw [hn, htable]
    split
    · refine if_neg fun hcap => hascii ⟨?_, ?_⟩
      · exact hn ▸ hcap.1
      · exact hn ▸ hcap.2
    · rfl

/-- Every capital beyond the ASCII ones is beyond ASCII. -/
theorem findSome?_lower?_ascii {n : Nat} (h : n < 128) :
    caseStretches.findSome? (·.lower? n) = none := by
  have hall : (caseStretches.all fun r => Nat.ble 128 r.first) = true := by decide +kernel
  rw [List.all_eq_true] at hall
  rw [List.findSome?_eq_none_iff]
  intro r hr
  have hfirst := hall r hr
  rw [Nat.ble_eq] at hfirst
  exact if_neg fun hn => by omega

theorem isSmall_lowerChar {c : Char} (hsigma : c ≠ 'Σ') (hdotted : c ≠ 'İ') :
    IsSmall (lowerChar c) := by
  have hs : c.toNat ≠ 0x3A3 := fun h => hsigma (char_ext h)
  have hd : c.toNat ≠ 0x130 := fun h => hdotted (char_ext h)
  have hself (hascii : ¬(0x41 ≤ c.toNat ∧ c.toNat ≤ 0x5A))
      (htable : caseStretches.findSome? (·.lower? c.toNat) = none) : IsSmall c := by
    have h := isSmall_ofNat c.valid hs hd hascii htable
    rwa [show Char.ofNat c.val.toNat = c from Char.ofNat_toNat c] at h
  unfold lowerChar
  split
  · next hlt =>
    split
    · next hcap =>
      have hlo : 0x41 ≤ c.toNat := hcap.1
      have hhi : c.toNat ≤ 0x5A := hcap.2
      exact isSmall_ofNat (Or.inl (by omega)) (by omega) (by omega) (by omega)
        (findSome?_lower?_ascii (by omega))
    · next hcap => exact hself hcap (findSome?_lower?_ascii hlt)
  · next hge =>
    split
    · next m hm =>
      have havoid := fun (s : Range) hs => not_mem_unused hm (s := s) hs
      have hascii := havoid (0x41, 0x5A) (by decide)
      have hsig := havoid (0x3A3, 0x3A3) (by decide)
      have hdot := havoid (0x130, 0x130) (by decide)
      simp only at hascii hsig hdot
      exact isSmall_ofNat (small_isValidChar hm) (by omega) (by omega) hascii
        (findSome?_lower?_of_small hm)
    · next hm => exact hself (by omega) hm

/-! ## Blanks are kept -/

theorem isBlank_ofNat {n : Nat} (hv : n.isValidChar)
    (h : ∀ s ∈ blankRanges, ¬(s.1 ≤ n ∧ n ≤ s.2)) : isBlank (Char.ofNat n) = false := by
  rw [Bool.eq_false_iff]
  intro hb
  obtain ⟨s, hs, hslo, hshi⟩ := memRanges_iff.1 hb
  rw [toNat_ofNat hv] at hslo hshi
  exact h s hs ⟨hslo, hshi⟩

theorem isBlank_ascii_letter {c : Char} (h : 0x41 ≤ c.toNat ∧ c.toNat ≤ 0x5A) :
    isBlank c = false := by
  rw [Bool.eq_false_iff]
  intro hb
  obtain ⟨s, hs, hslo, hshi⟩ := memRanges_iff.1 hb
  simp only [blankRanges, List.mem_cons, List.not_mem_nil, or_false] at hs
  rcases hs with rfl | rfl | rfl | rfl | rfl | rfl | rfl | rfl | rfl | rfl <;>
    simp only at hslo hshi <;> omega

theorem isBlank_lowerChar (c : Char) : isBlank (lowerChar c) = isBlank c := by
  unfold lowerChar
  split
  · split
    · next hcap =>
      have hlo : 0x41 ≤ c.toNat := hcap.1
      have hhi : c.toNat ≤ 0x5A := hcap.2
      rw [isBlank_ascii_letter ⟨hlo, hhi⟩]
      apply isBlank_ofNat (Or.inl (by omega))
      intro s hs
      simp only [blankRanges, List.mem_cons, List.not_mem_nil, or_false] at hs
      rcases hs with rfl | rfl | rfl | rfl | rfl | rfl | rfl | rfl | rfl | rfl <;>
        simp only <;> omega
    · rfl
  · split
    · next m hm =>
      rw [capital_not_blank hm]
      apply isBlank_ofNat (small_isValidChar hm)
      intro s hs
      exact not_mem_unused hm (List.mem_append_right _ hs)
    · rfl

/-! ## Small letters of texts -/

theorem lowerFrom_cons (before : List Char) (c : Char) (cs : List Char) :
    ∃ d ds, lowerFrom before (c :: cs) = d :: ds ++ lowerFrom (c :: before) cs ∧
      (∀ e ∈ d :: ds, IsSmall e) ∧ (isBlank c = false → ∀ e ∈ d :: ds, isBlank e = false) := by
  have hsmall (e : Char) (he : e ∈ ['σ', 'ς', 'i', '\u0307']) : IsSmall e ∧ isBlank e = false := by
    simp only [List.mem_cons, List.not_mem_nil, or_false] at he
    rcases he with rfl | rfl | rfl | rfl <;>
      exact ⟨⟨by decide, by decide, by decide +kernel⟩, by decide⟩
  rw [lowerFrom]
  by_cases hsigma : c = 'Σ'
  · have hmem : lowerSigma before cs ∈ ['σ', 'ς', 'i', '\u0307'] := by
      unfold lowerSigma
      split <;> simp
    refine ⟨lowerSigma before cs, [], by rw [if_pos hsigma]; rfl, ?_, ?_⟩
    · intro e he
      rw [List.mem_singleton.1 he]
      exact (hsmall _ hmem).1
    · intro _ e he
      rw [List.mem_singleton.1 he]
      exact (hsmall _ hmem).2
  · by_cases hdotted : c = 'İ'
    · refine ⟨'i', ['\u0307'], by rw [if_neg hsigma, if_pos hdotted]; rfl, ?_, ?_⟩
      · intro e he
        exact (hsmall e (List.mem_cons_of_mem _ (List.mem_cons_of_mem _ he))).1
      · intro _ e he
        exact (hsmall e (List.mem_cons_of_mem _ (List.mem_cons_of_mem _ he))).2
    · refine ⟨lowerChar c, [], by rw [if_neg hsigma, if_neg hdotted]; rfl, ?_, ?_⟩
      · intro e he
        rw [List.mem_singleton.1 he]
        exact isSmall_lowerChar hsigma hdotted
      · intro hb e he
        rw [List.mem_singleton.1 he, isBlank_lowerChar, hb]

theorem isSmall_of_mem_lowerFrom {before cs : List Char} {e : Char}
    (h : e ∈ lowerFrom before cs) : IsSmall e := by
  induction cs generalizing before with
  | nil => exact absurd h List.not_mem_nil
  | cons c cs ih =>
    obtain ⟨d, ds, heq, hsmall, -⟩ := lowerFrom_cons before c cs
    rw [heq, List.mem_append] at h
    rcases h with h | h
    · exact hsmall e h
    · exact ih h

theorem lowerFrom_of_small {cs : List Char} (h : ∀ c ∈ cs, IsSmall c) (before : List Char) :
    lowerFrom before cs = cs := by
  induction cs generalizing before with
  | nil => rfl
  | cons c cs ih =>
    obtain ⟨hsigma, hdotted, hfix⟩ := h c List.mem_cons_self
    rw [lowerFrom, if_neg hsigma, if_neg hdotted, hfix,
      ih fun d hd => h d (List.mem_cons_of_mem c hd)]

/-- Lowering twice is lowering once, whatever stands before. -/
theorem lowerFrom_lowerFrom (before before' cs : List Char) :
    lowerFrom before' (lowerFrom before cs) = lowerFrom before cs :=
  lowerFrom_of_small (fun _ hc => isSmall_of_mem_lowerFrom hc) before'

@[simp] theorem lowercase_lowercase (s : String) : lowercase (lowercase s) = lowercase s := by
  simp [lowercase, lowerFrom_lowerFrom]

theorem lowerFrom_ne_nil {before cs : List Char} (h : cs ≠ []) : lowerFrom before cs ≠ [] := by
  cases cs with
  | nil => exact absurd rfl h
  | cons c cs =>
    obtain ⟨d, ds, heq, -, -⟩ := lowerFrom_cons before c cs
    simp [heq]

/-- Lowering a trimmed text yields a trimmed text. -/
theorem trimmed_lowerFrom {cs : List Char} (h : Trimmed cs) (before : List Char) :
    Trimmed (lowerFrom before cs) := by
  refine ⟨?_, ?_⟩
  · cases cs with
    | nil => exact h.1
    | cons c cs =>
      obtain ⟨d, ds, heq, -, hblank⟩ := lowerFrom_cons before c cs
      intro e he
      rw [heq] at he
      simp only [List.cons_append, List.head?_cons, Option.mem_def, Option.some.injEq] at he
      exact hblank (h.1 c rfl) e (he ▸ List.mem_cons_self)
  · have hlast := h.2
    clear h
    induction cs generalizing before with
    | nil => exact hlast
    | cons c cs ih =>
      obtain ⟨d, ds, heq, -, hblank⟩ := lowerFrom_cons before c cs
      intro e he
      rw [heq] at he
      cases cs with
      | nil =>
        rw [lowerFrom, List.append_nil] at he
        exact hblank (hlast c rfl) e (List.mem_of_getLast? he)
      | cons b cs =>
        rw [List.getLast?_append,
          List.getLast?_eq_some_getLast (lowerFrom_ne_nil (List.cons_ne_nil b cs))] at he
        rw [Option.some_or, ← List.getLast?_eq_some_getLast] at he
        exact ih _ (fun a ha => hlast a (by rwa [List.getLast?_cons_cons])) e he

end Argumentation.Text

namespace Argumentation

open Text

/-! ## Canonical identifiers -/

theorem toList_canonicalId (s : String) :
    (canonicalId s).toList = lowerFrom [] (trimChars s.toList) := by
  simp [canonicalId]

theorem trimmed_canonicalId (s : String) : Trimmed (canonicalId s).toList := by
  rw [toList_canonicalId]
  exact trimmed_lowerFrom (trimmed_trimChars s.toList) []

theorem trim_canonicalId (s : String) : trim (canonicalId s) = canonicalId s := by
  rw [trim, trimChars_eq_self (trimmed_canonicalId s), String.ofList_toList]

/-- A canonical identifier is its own canonical form. -/
@[simp] theorem canonicalId_canonicalId (s : String) :
    canonicalId (canonicalId s) = canonicalId s := by
  rw [canonicalId, trim_canonicalId, canonicalId, lowercase_lowercase]

theorem isCanonical_canonicalId (s : String) : IsCanonical (canonicalId s) :=
  canonicalId_canonicalId s

/-! ## Identifiers of letters and digits -/

/-- What it takes for an identifier to be valid. -/
theorem validateIdentifier_eq_ok_iff {limits : Limits} {raw : String} :
    validateIdentifier limits raw = .ok () ↔
      trimChars raw.toList ≠ [] ∧ (trimChars raw.toList).length ≤ limits.maxIdentifierLength ∧
        ∀ c ∈ trimChars raw.toList, isAlphanumeric c = true := by
  unfold validateIdentifier
  rw [toList_trim]
  by_cases hne : trimChars raw.toList = []
  · simp [hne]
  · by_cases hlen : limits.maxIdentifierLength < (trimChars raw.toList).length
    · simp [hne, hlen, Nat.not_le.2 hlen]
    · by_cases hall : ∀ c ∈ trimChars raw.toList, isAlphanumeric c = true
      · rw [if_neg hne, if_neg hlen, List.all_eq_true.2 hall]
        exact ⟨fun _ => ⟨hne, Nat.not_lt.1 hlen, hall⟩, fun _ => rfl⟩
      · have hfalse : (trimChars raw.toList).all isAlphanumeric = false := by
          rw [Bool.eq_false_iff]
          exact fun h => hall (List.all_eq_true.1 h)
        rw [if_neg hne, if_neg hlen, hfalse]
        exact ⟨fun h => (nomatch h), fun h => absurd h.2.2 hall⟩

theorem isAlphanumeric_iff {c : Char} :
    isAlphanumeric c = true ↔ (0x30 ≤ c.toNat ∧ c.toNat ≤ 0x39) ∨
      (0x61 ≤ c.toNat ∧ c.toNat ≤ 0x7A) ∨ (0x41 ≤ c.toNat ∧ c.toNat ≤ 0x5A) := by
  simp only [isAlphanumeric, isDigit, Bool.or_eq_true, Bool.and_eq_true, decide_eq_true_eq]
  exact or_assoc

theorem isBlank_of_isAlphanumeric {c : Char} (h : isAlphanumeric c = true) : isBlank c = false := by
  have hc := isAlphanumeric_iff.1 h
  rw [Bool.eq_false_iff]
  intro hblank
  obtain ⟨r, hr, hlo, hhi⟩ := memRanges_iff.1 hblank
  simp only [blankRanges, List.mem_cons, List.not_mem_nil, or_false] at hr
  rcases hr with rfl | rfl | rfl | rfl | rfl | rfl | rfl | rfl | rfl | rfl <;>
    simp only at hlo hhi <;> omega

theorem isAlphanumeric_lowerChar {c : Char} (h : isAlphanumeric c = true) :
    isAlphanumeric (lowerChar c) = true := by
  have hc := isAlphanumeric_iff.1 h
  unfold lowerChar
  rw [if_pos (by omega)]
  split
  · next hcap =>
    have hlo : 0x41 ≤ c.toNat := hcap.1
    have hhi : c.toNat ≤ 0x5A := hcap.2
    rw [isAlphanumeric_iff, toNat_ofNat (Or.inl (by omega))]
    omega
  · exact h

theorem lowerFrom_eq_map {cs : List Char} (h : ∀ c ∈ cs, isAlphanumeric c = true)
    (before : List Char) : lowerFrom before cs = cs.map lowerChar := by
  induction cs generalizing before with
  | nil => rfl
  | cons c cs ih =>
    have hc := isAlphanumeric_iff.1 (h c List.mem_cons_self)
    have hsigma : c ≠ 'Σ' := fun hs => by subst hs; revert hc; decide
    have hdotted : c ≠ 'İ' := fun hs => by subst hs; revert hc; decide
    rw [lowerFrom, if_neg hsigma, if_neg hdotted, List.map_cons,
      ih fun d hd => h d (List.mem_cons_of_mem c hd)]

theorem lowerChar_of_isAlphanumeric {c : Char} (h : isAlphanumeric c = true) :
    lowerChar c = lowerAscii c := by
  have hc := isAlphanumeric_iff.1 h
  rw [lowerChar, if_pos (by omega), lowerAscii]

/-- Of letters and digits, the canonical form has the small letters. -/
theorem canonicalId_ofList {cs : List Char} (h : ∀ c ∈ cs, isAlphanumeric c = true) :
    canonicalId (String.ofList cs) = String.ofList (cs.map lowerAscii) := by
  have htrimmed : Trimmed cs := trimmed_of_forall fun c hc => isBlank_of_isAlphanumeric (h c hc)
  rw [← String.toList_inj, toList_canonicalId, String.toList_ofList, String.toList_ofList,
    trimChars_eq_self htrimmed, lowerFrom_eq_map h]
  exact List.map_congr_left fun c hc => lowerChar_of_isAlphanumeric (h c hc)

/-- The canonical form of a valid identifier is valid. -/
theorem validateIdentifier_canonicalId {limits : Limits} {raw : String}
    (h : validateIdentifier limits raw = .ok ()) :
    validateIdentifier limits (canonicalId raw) = .ok () := by
  obtain ⟨hne, hlen, hall⟩ := validateIdentifier_eq_ok_iff.1 h
  rw [validateIdentifier_eq_ok_iff, trimChars_eq_self (trimmed_canonicalId raw),
    toList_canonicalId, lowerFrom_eq_map hall]
  refine ⟨by simpa using hne, by simpa using hlen, fun c hc => ?_⟩
  obtain ⟨d, hd, rfl⟩ := List.mem_map.1 hc
  exact isAlphanumeric_lowerChar (hall d hd)

end Argumentation
