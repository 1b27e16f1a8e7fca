import Argumentation.Proofs.Json.Numeral
import Argumentation.Proofs.Json.Text

/-!
# JSON values read back

A value that is written over many lines is read back as the document that it spells
(`parse?_pretty`), with every number as its numeral.

The reader counts its steps.  Two of them are left for every character of a value, and so the
bound on the steps is the length of what is still to be read.
-/

namespace Argumentation.Json

/-! ## Documents of values -/

mutual

/-- The document that a value is written as. -/
def document : Json → Document
  | .null => .null
  | .bool b => .bool b
  | .number n => .numeral n.numeral
  | .text s => .text (some s)
  | .array vs => .array (documents vs)
  | .object fs => .object (fieldDocuments fs)

/-- The documents of the items of a list. -/
def documents : List Json → List Document
  | [] => []
  | v :: vs => document v :: documents vs

/-- The documents of the fields of an object. -/
def fieldDocuments : List (String × Json) → List (Option String × Document)
  | [] => []
  | f :: fs => (some f.1, document f.2) :: fieldDocuments fs

end

mutual

/-- Whether all numbers of a value are finite. -/
def isFinite : Json → Bool
  | .number n => n.isFinite
  | .array vs => areFinite vs
  | .object fs => areFiniteFields fs
  | _ => true

/-- Whether all numbers of the items of a list are finite. -/
def areFinite : List Json → Bool
  | [] => true
  | v :: vs => isFinite v && areFinite vs

/-- Whether all numbers of the fields of an object are finite. -/
def areFiniteFields : List (String × Json) → Bool
  | [] => true
  | f :: fs => isFinite f.2 && areFiniteFields fs

end

/-! ## Between tokens -/

section Filler

variable {cs : List Char}

theorem skipFiller_append {filler : List Char} (h : ∀ c ∈ filler, isFiller c = true) :
    skipFiller (filler ++ cs) = skipFiller cs :=
  List.dropWhile_append_of_pos h

theorem skipFiller_cons {c : Char} (h : isFiller c = false) : skipFiller (c :: cs) = c :: cs :=
  List.dropWhile_cons_of_neg (ne_true_of_eq_false h)

theorem isFiller_of_mem_newLine {level : Nat} {c : Char} (h : c ∈ newLine level) :
    isFiller c = true := by
  cases List.mem_cons.1 h with
  | inl hline =>
    rw [hline]
    rfl
  | inr hblank =>
    rw [List.eq_of_mem_replicate hblank]
    rfl

theorem skipFiller_newLine (level : Nat) : skipFiller (newLine level ++ cs) = skipFiller cs :=
  skipFiller_append fun _ => isFiller_of_mem_newLine

theorem readDocument?_append {filler : List Char} (steps : Nat)
    (h : ∀ c ∈ filler, isFiller c = true) :
    readDocument? steps (filler ++ cs) = readDocument? steps cs := by
  cases steps with
  | zero => rfl
  | succ steps => rw [readDocument?, readDocument?, skipFiller_append h]

theorem readItems?_newLine (steps level : Nat) :
    readItems? steps (newLine level ++ cs) = readItems? steps cs := by
  cases steps with
  | zero => rfl
  | succ steps => rw [readItems?, readItems?,
      readDocument?_append steps fun _ => isFiller_of_mem_newLine]

theorem readFields?_newLine (steps level : Nat) :
    readFields? steps (newLine level ++ cs) = readFields? steps cs := by
  cases steps with
  | zero => rfl
  | succ steps => rw [readFields?, readFields?, skipFiller_newLine]

end Filler

/-! ## Single values -/

section Single

variable {steps : Nat} (cs : List Char)

theorem readDocument?_text (s : String) :
    readDocument? (steps + 1) (textChars s ++ cs) = some (.text (some s), cs) := by
  rw [textChars_append, readDocument?, skipFiller_cons rfl]
  simp only [readText?_flatMap, Option.bind_eq_bind, Option.bind_some]

theorem readDocument?_bool (b : Bool) :
    readDocument? (steps + 1) (boolChars b ++ cs) = some (.bool b, cs) := by
  rw [readDocument?]
  cases b <;> rfl

theorem readDocument?_null :
    readDocument? (steps + 1) (['n', 'u', 'l', 'l'] ++ cs) = some (.null, cs) := by
  rw [readDocument?]
  rfl

theorem numberChars_eq_cons {n : Number} (h : n.isFinite = true) :
    ∃ c ds, numberChars n = c :: ds ∧ (isDigit c = true ∨ c = '-') := by
  have hproper := proper_numeral h
  rw [numberChars_eq h, Numeral.chars]
  by_cases hnegative : n.numeral.negative = true
  · exact ⟨'-', _, by rw [if_pos hnegative]; rfl, Or.inr rfl⟩
  · obtain ⟨d, ds, hcons⟩ := List.exists_cons_of_ne_nil hproper.whole_ne_nil
    have hdigit : isDigit d = true :=
      hproper.isDigit_whole d (by rw [hcons]; exact List.mem_cons_self)
    exact ⟨d, _, by rw [if_neg hnegative, hcons]; rfl, Or.inl hdigit⟩

/-- No other token begins as a numeral does. -/
theorem ne_of_numeral {c : Char} (h : isDigit c = true ∨ c = '-') {d : Char}
    (hdigit : isDigit d = false) (hsign : d ≠ '-') : c ≠ d := by
  rintro rfl
  cases h with
  | inl hc => exact Bool.false_ne_true (hdigit.symm.trans hc)
  | inr hc => exact hsign hc

theorem isFiller_of_numeral {c : Char} (h : isDigit c = true ∨ c = '-') : isFiller c = false := by
  simp only [isFiller, Bool.or_eq_false_iff, beq_eq_false_iff_ne]
  exact ⟨⟨⟨ne_of_numeral h (by decide) (by decide), ne_of_numeral h (by decide) (by decide)⟩,
    ne_of_numeral h (by decide) (by decide)⟩, ne_of_numeral h (by decide) (by decide)⟩

/-- What begins as a numeral is read as one. -/
theorem readDocument?_of_numeral {c : Char} (h : isDigit c = true ∨ c = '-') :
    readDocument? (steps + 1) (c :: cs) =
      (readNumeral? (c :: cs)).map fun r => (.numeral r.1, r.2) := by
  have hne {d : Char} (hdigit : isDigit d = false) (hsign : d ≠ '-') {ds : List Char}
      (heq : c :: cs = d :: ds) : False :=
    ne_of_numeral h hdigit hsign (List.cons.inj heq).1
  rw [readDocument?, skipFiller_cons (isFiller_of_numeral h)]
  split
  · next heq => exact (hne (by decide) (by decide) heq).elim
  · next heq => exact (hne (by decide) (by decide) heq).elim
  · next heq => exact (hne (by decide) (by decide) heq).elim
  · next heq => exact (hne (by decide) (by decide) heq).elim
  · next heq => exact (hne (by decide) (by decide) heq).elim
  · next heq => exact (hne (by decide) (by decide) heq).elim
  · cases readNumeral? (c :: cs) <;> rfl

theorem readDocument?_number {n : Number} (h : n.isFinite = true) (hrest : EndsNumeral cs) :
    readDocument? (steps + 1) (numberChars n ++ cs) = some (.numeral n.numeral, cs) := by
  obtain ⟨c, ds, hcons, hc⟩ := numberChars_eq_cons h
  rw [hcons, List.cons_append, readDocument?_of_numeral _ hc, ← List.cons_append, ← hcons,
    readNumeral?_numberChars h hrest]
  rfl

end Single

/-! ## Lists and objects -/

/-- A value begins with no blank and with no bracket that closes. -/
theorem exists_prettyChars_eq_cons (level : Nat) {v : Json} (h : v.isFinite = true) :
    ∃ c cs, prettyChars level v = c :: cs ∧ isFiller c = false ∧ c ≠ ']' := by
  match v with
  | .null => exact ⟨'n', _, by rw [prettyChars], rfl, by decide⟩
  | .bool true => exact ⟨'t', _, by rw [prettyChars]; rfl, rfl, by decide⟩
  | .bool false => exact ⟨'f', _, by rw [prettyChars]; rfl, rfl, by decide⟩
  | .number n =>
    rw [isFinite] at h
    obtain ⟨c, cs, hcons, hc⟩ := numberChars_eq_cons h
    exact ⟨c, cs, by rw [prettyChars, hcons], isFiller_of_numeral hc,
      ne_of_numeral hc (by decide) (by decide)⟩
  | .text s => exact ⟨'"', _, by rw [prettyChars]; rfl, rfl, by decide⟩
  | .array [] => exact ⟨'[', _, by rw [prettyChars], rfl, by decide⟩
  | .array (v :: vs) => exact ⟨'[', _, by rw [prettyChars]; rfl, rfl, by decide⟩
  | .object [] => exact ⟨'\x7b', _, by rw [prettyChars], rfl, by decide⟩
  | .object (f :: fs) => exact ⟨'\x7b', _, by rw [prettyChars]; rfl, rfl, by decide⟩

theorem length_prettyChars_pos (level : Nat) {v : Json} (h : v.isFinite = true) :
    0 < (prettyChars level v).length := by
  obtain ⟨c, cs, hcons, -, -⟩ := exists_prettyChars_eq_cons level h
  rw [hcons]
  exact Nat.succ_pos _

/-- What is read back in a number of steps.  Two steps are left for every character. -/
structure ReadsBack (steps : Nat) : Prop where
  /-- A value is read back in front of what cannot go on a numeral. -/
  document : ∀ (level : Nat) (v : Json) (rest : List Char), v.isFinite = true →
    2 * (prettyChars level v).length ≤ steps → EndsNumeral rest →
    readDocument? steps (prettyChars level v ++ rest) = some (v.document, rest)
  /-- The items of a list are read back up to its end. -/
  items : ∀ (level : Nat) (v : Json) (vs : List Json) (rest : List Char),
    areFinite (v :: vs) = true →
    2 * ((prettyChars (level + 1) v).length + (prettyItems level vs).length) ≤ steps →
    readItems? steps (prettyChars (level + 1) v ++ (prettyItems level vs ++ rest)) =
      some (documents (v :: vs), rest)
  /-- The fields of an object are read back up to its end. -/
  fields : ∀ (level : Nat) (f : String × Json) (fs : List (String × Json)) (rest : List Char),
    areFiniteFields (f :: fs) = true →
    2 * ((prettyChars (level + 1) f.2).length + (prettyFields level fs).length) ≤ steps →
    readFields? steps (textChars f.1 ++ (':' :: ' ' :: (prettyChars (level + 1) f.2 ++
      (prettyFields level fs ++ rest)))) = some (fieldDocuments (f :: fs), rest)

section Step

variable {steps : Nat} (ih : ReadsBack steps)
include ih

theorem readDocument?_prettyArray (level : Nat) (v : Json) (vs : List Json) (rest : List Char)
    (hv : areFinite (v :: vs) = true)
    (hsteps : 2 * (prettyChars level (.array (v :: vs))).length ≤ steps + 1) :
    readDocument? (steps + 1) (prettyChars level (.array (v :: vs)) ++ rest) =
      some ((Json.array (v :: vs)).document, rest) := by
  rw [prettyChars] at hsteps ⊢
  have hlen :
      2 * ((prettyChars (level + 1) v).length + (prettyItems level vs).length) ≤ steps := by
    simp only [List.length_append, List.length_cons] at hsteps
    omega
  have hitems := ih.items level v vs rest hv hlen
  rw [areFinite, Bool.and_eq_true] at hv
  obtain ⟨c, cs, hcons, hfiller, hbracket⟩ := exists_prettyChars_eq_cons (level + 1) hv.1
  have hskip : skipFiller (newLine (level + 1) ++ (prettyChars (level + 1) v ++
      (prettyItems level vs ++ rest))) =
        prettyChars (level + 1) v ++ (prettyItems level vs ++ rest) := by
    rw [skipFiller_newLine, hcons, List.cons_append, skipFiller_cons hfiller]
  simp only [List.cons_append, List.append_assoc]
  rw [readDocument?, skipFiller_cons rfl]
  simp only [hskip]
  split
  · next heq =>
    rw [hcons] at heq
    exact absurd (List.cons.inj heq).1 hbracket
  · rw [hitems, document]
    rfl

theorem readDocument?_prettyObject (level : Nat) (f : String × Json) (fs : List (String × Json))
    (rest : List Char) (hv : areFiniteFields (f :: fs) = true)
    (hsteps : 2 * (prettyChars level (.object (f :: fs))).length ≤ steps + 1) :
    readDocument? (steps + 1) (prettyChars level (.object (f :: fs)) ++ rest) =
      some ((Json.object (f :: fs)).document, rest) := by
  rw [prettyChars] at hsteps ⊢
  have hlen :
      2 * ((prettyChars (level + 1) f.2).length + (prettyFields level fs).length) ≤ steps := by
    simp only [List.length_append, List.length_cons] at hsteps
    omega
  have hfields := ih.fields level f fs rest hv hlen
  have hskip : skipFiller (newLine (level + 1) ++ (textChars f.1 ++ (':' :: ' ' ::
      (prettyChars (level + 1) f.2 ++ (prettyFields level fs ++ rest))))) =
      textChars f.1 ++ (':' :: ' ' :: (prettyChars (level + 1) f.2 ++
        (prettyFields level fs ++ rest))) := by
    rw [skipFiller_newLine, textChars_append, skipFiller_cons rfl]
  simp only [List.cons_append, List.append_assoc]
  rw [readDocument?, skipFiller_cons rfl]
  simp only [hskip]
  split
  · next heq =>
    rw [textChars_append] at heq
    exact absurd (List.cons.inj heq).1 (by decide)
  · rw [hfields, document]
    rfl

theorem readDocument?_prettyChars (level : Nat) (v : Json) (rest : List Char)
    (hv : v.isFinite = true) (hsteps : 2 * (prettyChars level v).length ≤ steps + 1)
    (hrest : EndsNumeral rest) :
    readDocument? (steps + 1) (prettyChars level v ++ rest) = some (v.document, rest) := by
  match v with
  | .null =>
    rw [prettyChars, document]
    exact readDocument?_null rest
  | .bool b =>
    rw [prettyChars, document]
    exact readDocument?_bool rest b
  | .number n =>
    rw [isFinite] at hv
    rw [prettyChars, document]
    exact readDocument?_number rest hv hrest
  | .text s =>
    rw [prettyChars, document]
    exact readDocument?_text rest s
  | .array [] =>
    rw [prettyChars, document, documents, readDocument?]
    rfl
  | .array (v :: vs) =>
    rw [isFinite] at hv
    exact readDocument?_prettyArray ih level v vs rest hv hsteps
  | .object [] =>
    rw [prettyChars, document, fieldDocuments, readDocument?]
    rfl
  | .object (f :: fs) =>
    rw [isFinite] at hv
    exact readDocument?_prettyObject ih level f fs rest hv hsteps

theorem readItems?_prettyItems (level : Nat) (v : Json) (vs : List Json) (rest : List Char)
    (hv : areFinite (v :: vs) = true)
    (hsteps : 2 * ((prettyChars (level + 1) v).length + (prettyItems level vs).length) ≤
      steps + 1) :
    readItems? (steps + 1) (prettyChars (level + 1) v ++ (prettyItems level vs ++ rest)) =
      some (documents (v :: vs), rest) := by
  rw [areFinite, Bool.and_eq_true] at hv
  have hpos := length_prettyChars_pos (level + 1) hv.1
  match vs with
  | [] =>
    have hread := ih.document (level + 1) v (prettyItems level [] ++ rest) hv.1
      (by simp only [prettyItems, List.length_append, List.length_singleton] at hsteps; omega)
      (by rw [prettyItems]; exact endsNumeral_cons _ (by decide))
    have hskip : skipFiller (prettyItems level [] ++ rest) = ']' :: rest := by
      rw [prettyItems, List.append_assoc, skipFiller_newLine]
      exact skipFiller_cons rfl
    rw [readItems?, hread]
    simp only [Option.bind_eq_bind, Option.bind_some, hskip, documents]
  | w :: vs =>
    have hlen : (prettyItems level (w :: vs)).length = 1 + (newLine (level + 1)).length +
        (prettyChars (level + 1) w).length + (prettyItems level vs).length := by
      simp only [prettyItems, List.cons_append, List.length_cons, List.length_append]
      omega
    have hread := ih.document (level + 1) v (prettyItems level (w :: vs) ++ rest) hv.1 (by omega)
      (by rw [prettyItems]; exact endsNumeral_cons _ (by decide))
    have hskip : skipFiller (prettyItems level (w :: vs) ++ rest) = ',' :: (newLine (level + 1) ++
        (prettyChars (level + 1) w ++ (prettyItems level vs ++ rest))) := by
      simp only [prettyItems, List.cons_append, List.append_assoc]
      exact skipFiller_cons rfl
    have hitems := ih.items level w vs rest hv.2 (by omega)
    rw [readItems?, hread]
    simp only [Option.bind_eq_bind, Option.bind_some, hskip, readItems?_newLine, hitems]
    rfl

theorem readFields?_prettyFields (level : Nat) (f : String × Json) (fs : List (String × Json))
    (rest : List Char) (hv : areFiniteFields (f :: fs) = true)
    (hsteps : 2 * ((prettyChars (level + 1) f.2).length + (prettyFields level fs).length) ≤
      steps + 1) :
    readFields? (steps + 1) (textChars f.1 ++ (':' :: ' ' :: (prettyChars (level + 1) f.2 ++
      (prettyFields level fs ++ rest)))) = some (fieldDocuments (f :: fs), rest) := by
  rw [areFiniteFields, Bool.and_eq_true] at hv
  have hpos := length_prettyChars_pos (level + 1) hv.1
  have hfiller : ∀ c ∈ [' '], isFiller c = true := List.forall_mem_singleton.2 rfl
  have hblank (cs : List Char) : readDocument? steps (' ' :: cs) = readDocument? steps cs :=
    readDocument?_append steps hfiller
  match fs with
  | [] =>
    have hread := ih.document (level + 1) f.2 (prettyFields level [] ++ rest) hv.1
      (by simp only [prettyFields, List.length_append, List.length_singleton] at hsteps; omega)
      (by rw [prettyFields]; exact endsNumeral_cons _ (by decide))
    have hskip : skipFiller (prettyFields level [] ++ rest) = '\x7d' :: rest := by
      rw [prettyFields, List.append_assoc, skipFiller_newLine]
      exact skipFiller_cons rfl
    rw [readFields?, textChars_append, skipFiller_cons rfl]
    simp only [readText?_flatMap, Option.bind_eq_bind, Option.bind_some, skipFiller_cons, hblank,
      hread, hskip, fieldDocuments, show isFiller ':' = false from rfl]
  | g :: fs =>
    have hlen : (prettyFields level (g :: fs)).length = 1 + (newLine (level + 1)).length +
        (textChars g.1).length + 2 + (prettyChars (level + 1) g.2).length +
        (prettyFields level fs).length := by
      simp only [prettyFields, List.cons_append, List.length_cons, List.length_append]
      omega
    have hread := ih.document (level + 1) f.2 (prettyFields level (g :: fs) ++ rest) hv.1
      (by omega) (by rw [prettyFields]; exact endsNumeral_cons _ (by decide))
    have hskip : skipFiller (prettyFields level (g :: fs) ++ rest) = ',' :: (newLine (level + 1) ++
        (textChars g.1 ++ (':' :: ' ' :: (prettyChars (level + 1) g.2 ++
          (prettyFields level fs ++ rest))))) := by
      simp only [prettyFields, List.cons_append, List.append_assoc]
      exact skipFiller_cons rfl
    have hfields := ih.fields level g fs rest hv.2 (by omega)
    rw [readFields?, textChars_append, skipFiller_cons rfl]
    simp only [readText?_flatMap, Option.bind_eq_bind, Option.bind_some, skipFiller_cons, hblank,
      hread, hskip, readFields?_newLine, hfields, show isFiller ':' = false from rfl]
    rfl

end Step

/-- Everything is read back if there are steps enough. -/
theorem readsBack (steps : Nat) : ReadsBack steps := by
  induction steps with
  | zero =>
    refine ⟨fun level v rest hv hsteps _ => ?_, fun level v vs rest hv hsteps => ?_,
      fun level f fs rest hv hsteps => ?_⟩
    · have hpos := length_prettyChars_pos level hv
      omega
    · rw [areFinite, Bool.and_eq_true] at hv
      have hpos := length_prettyChars_pos (level + 1) hv.1
      omega
    · rw [areFiniteFields, Bool.and_eq_true] at hv
      have hpos := length_prettyChars_pos (level + 1) hv.1
      omega
  | succ steps ih =>
    exact ⟨readDocument?_prettyChars ih, readItems?_prettyItems ih, readFields?_prettyFields ih⟩

/-- A value is read back from its text as the document that it spells. -/
theorem parse?_pretty {v : Json} (h : v.isFinite = true) : parse? v.pretty = some v.document := by
  have hread := (readsBack (2 * (prettyChars 0 v).length + 2)).document 0 v [] h
    (Nat.le_add_right _ 2) nofun
  rw [List.append_nil] at hread
  rw [parse?, pretty, String.toList_ofList, parseChars?, hread]
  rfl

end Argumentation.Json
