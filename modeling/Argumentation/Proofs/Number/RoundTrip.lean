import Argumentation.Number.Layout
import Argumentation.Proofs.Number.Rounding
import Mathlib.Data.List.Basic
import Mathlib.Data.List.TakeWhile

/-!
# Numbers read back

A number that is written in the plain layout is read back as the same number
(`ofText?_toText`).  The layout shows the digits of the shortest decimal, without the zeros
at their end and with the point in its place.  Read back, these characters give another
decimal of the same value (`exists_read?_positional`), and the value decides what is read
(`Binary64.ofDecimal_eq_finite`).
-/

namespace Argumentation

/-! ## Rows of digits -/

theorem digitsValue_eq (cs : List Char) : digitsValue cs = Nat.ofDigitChars 10 cs 0 := rfl

theorem isDigit_of_mem_toDigits {n : Nat} {c : Char} (h : c ∈ Nat.toDigits 10 n) :
    isDigit c = true := by
  have hc := Nat.isDigit_of_mem_toDigits (by decide) (by decide) h
  simpa [isDigit, Char.isDigit, Char.le_def] using hc

/-- No number begins with a zero that says nothing. -/
theorem head?_toDigits_ne {n : Nat} (h : 0 < n) : (Nat.toDigits 10 n).head? ≠ some '0' := by
  induction n using Nat.strongRecOn with
  | ind n ih =>
    by_cases hsmall : n < 10
    · have hdigit : ∀ n < 10, 0 < n → Nat.digitChar n ≠ '0' := by decide
      rw [Nat.toDigits_of_lt_base hsmall]
      exact fun heq => hdigit n hsmall h (Option.some.inj heq)
    · rw [Nat.toDigits_of_base_le (by decide) (by omega),
        List.head?_append_of_ne_nil _ Nat.toDigits_ne_nil]
      exact ih (n / 10) (by omega) (by omega)

theorem digitsValue_append_zeros (cs : List Char) (k : Nat) :
    digitsValue (cs ++ List.replicate k '0') = digitsValue cs * Nat.pow 10 k := by
  rw [digitsValue_eq, Nat.ofDigitChars_append, Nat.ofDigitChars_replicate_zero, Nat.mul_comm]
  rfl

theorem digitsValue_zeros_append (k : Nat) (cs : List Char) :
    digitsValue (List.replicate k '0' ++ cs) = digitsValue cs := by
  rw [digitsValue_eq, Nat.ofDigitChars_append, Nat.ofDigitChars_replicate_zero, Nat.mul_zero]
  rfl

/-- The zeros that are dropped stood at the end. -/
theorem exists_dropTrailingZeros (cs : List Char) :
    ∃ k, cs = dropTrailingZeros cs ++ List.replicate k '0' := by
  have hsplit := List.takeWhile_append_dropWhile (p := (· == '0')) (l := cs.reverse)
  have hzeros : cs.reverse.takeWhile (· == '0') =
      List.replicate (cs.reverse.takeWhile (· == '0')).length '0' := by
    rw [List.eq_replicate_iff]
    exact ⟨rfl, fun c hc => by simpa using List.all_eq_true.1 List.all_takeWhile c hc⟩
  refine ⟨(cs.reverse.takeWhile (· == '0')).length, ?_⟩
  rw [dropTrailingZeros, ← List.reverse_replicate, ← List.reverse_append, ← hzeros, hsplit,
    List.reverse_reverse]

/-- The decimal that a row of digits stands for. -/
def DigitRow.decimal (r : DigitRow) : Decimal :=
  ⟨digitsValue r.digits, r.point - r.digits.length⟩

namespace Decimal

/-- The row of a decimal stands for a decimal of the same value. -/
theorem roundToUnits_row (d : Decimal) : d.row.decimal.roundToUnits = d.roundToUnits := by
  obtain ⟨k, hk⟩ := exists_dropTrailingZeros (Nat.toDigits 10 d.coefficient)
  have hvalue : d.coefficient = digitsValue d.row.digits * Nat.pow 10 k := by
    rw [← digitsValue_append_zeros]
    exact (Nat.ofDigitChars_ten_toDigits).symm.trans (congrArg digitsValue hk)
  have hlength : (Nat.toDigits 10 d.coefficient).length = d.row.digits.length + k := by
    have := congrArg List.length hk
    rwa [List.length_append, List.length_replicate] at this
  have hshift : d = d.row.decimal.shift k := by
    have hexponent : d.exponent = d.row.decimal.exponent - k := by
      change _ = d.exponent + (Nat.toDigits 10 d.coefficient).length - d.row.digits.length - k
      omega
    cases d
    simp only [shift, mk.injEq]
    exact ⟨hvalue, hexponent⟩
  rw [hshift, roundToUnits_shift, ← hshift]

end Decimal

/-! ## Reading the digits -/

section Reading

variable {whole fraction : List Char} (hw : ∀ c ∈ whole, isDigit c = true)
include hw

theorem read?_whole (hne : whole ≠ []) : Decimal.read? whole = some ⟨digitsValue whole, 0⟩ := by
  have htake : whole.takeWhile isDigit = whole := List.takeWhile_eq_self_iff.2 hw
  have hdrop : whole.dropWhile isDigit = [] := List.dropWhile_eq_nil_iff.2 hw
  unfold Decimal.read?
  rw [htake, hdrop]
  simp [hne, Decimal.readExponent?]

theorem read?_point (hf : ∀ c ∈ fraction, isDigit c = true) (hne : whole ++ fraction ≠ []) :
    Decimal.read? (whole ++ '.' :: fraction) =
      some ⟨digitsValue (whole ++ fraction), -fraction.length⟩ := by
  have hpoint : isDigit '.' = false := by decide
  have htake : (whole ++ '.' :: fraction).takeWhile isDigit = whole := by
    rw [List.takeWhile_append_of_pos hw, List.takeWhile_cons_of_neg (by simp [hpoint]),
      List.append_nil]
  have hdrop : (whole ++ '.' :: fraction).dropWhile isDigit = '.' :: fraction := by
    rw [List.dropWhile_append_of_pos hw, List.dropWhile_cons_of_neg (by simp [hpoint])]
  have hfraction : fraction.takeWhile isDigit = fraction := List.takeWhile_eq_self_iff.2 hf
  have hrest : fraction.dropWhile isDigit = [] := List.dropWhile_eq_nil_iff.2 hf
  have hsome : ¬(whole = [] ∧ fraction = []) := fun h => hne (List.append_eq_nil_iff.2 h)
  unfold Decimal.read?
  rw [htake, hdrop]
  simp [hsome, hfraction, hrest, Decimal.readExponent?]

end Reading

namespace DigitRow

variable {r : DigitRow}

theorem isDigit_of_mem_zeros {k : Nat} {c : Char} (h : c ∈ List.replicate k '0') :
    isDigit c = true := by
  rw [List.eq_of_mem_replicate h]
  decide

/-- A row that is written with its point reads as a decimal of its value. -/
theorem exists_read?_positional (hd : ∀ c ∈ r.digits, isDigit c = true) (hne : r.digits ≠ []) :
    ∃ d, Decimal.read? (r.positional false) = some d ∧
      d.roundToUnits = r.decimal.roundToUnits ∧ d.exponent ≤ 400 := by
  unfold positional
  by_cases hsmall : r.point ≤ 0
  · -- All digits stand behind the point.
    have hall : ∀ c ∈ List.replicate (-r.point).toNat '0' ++ r.digits, isDigit c = true :=
      fun c hc => (List.mem_append.1 hc).elim isDigit_of_mem_zeros (hd c)
    have hzero : ∀ c ∈ ['0'], isDigit c = true := List.forall_mem_singleton.2 (by decide)
    have hread := read?_point hzero hall (List.cons_ne_nil _ _)
    have hvalue : digitsValue (['0'] ++ (List.replicate (-r.point).toNat '0' ++ r.digits)) =
        digitsValue r.digits :=
      (digitsValue_zeros_append 1 _).trans (digitsValue_zeros_append _ _)
    rw [hvalue] at hread
    rw [if_pos hsmall]
    refine ⟨_, hread, congrArg Decimal.roundToUnits ?_, by simp only; omega⟩
    simp only [decimal, Decimal.mk.injEq, List.length_append, List.length_replicate, true_and]
    omega
  · rw [if_neg hsmall]
    by_cases hlarge : (r.digits.length : Int) ≤ r.point
    · -- All digits stand in front of the point, and zeros fill the gap.
      have hall : ∀ c ∈ r.digits ++ List.replicate (r.point - r.digits.length).toNat '0',
          isDigit c = true :=
        fun c hc => (List.mem_append.1 hc).elim (hd c) isDigit_of_mem_zeros
      have hread := read?_whole hall (List.append_ne_nil_of_left_ne_nil hne _)
      rw [digitsValue_append_zeros] at hread
      rw [if_pos hlarge, if_neg Bool.false_ne_true, List.append_nil]
      refine ⟨_, hread, ?_, by simp only; omega⟩
      rw [← Decimal.roundToUnits_shift r.decimal (r.point - r.digits.length).toNat]
      refine congrArg Decimal.roundToUnits ?_
      simp only [decimal, Decimal.shift, Decimal.mk.injEq, true_and]
      omega
    · -- The point stands among the digits.
      have htake : ∀ c ∈ r.digits.take r.point.toNat, isDigit c = true :=
        fun c hc => hd c (List.mem_of_mem_take hc)
      have hdrop : ∀ c ∈ r.digits.drop r.point.toNat, isDigit c = true :=
        fun c hc => hd c (List.mem_of_mem_drop hc)
      have hsome : r.digits.take r.point.toNat ≠ [] := by
        intro hnil
        cases List.take_eq_nil_iff.1 hnil with
        | inl hzero => omega
        | inr hempty => exact hne hempty
      have hread := read?_point htake hdrop (List.append_ne_nil_of_left_ne_nil hsome _)
      rw [List.take_append_drop] at hread
      rw [if_neg hlarge]
      refine ⟨_, hread, congrArg Decimal.roundToUnits ?_, by simp only; omega⟩
      simp only [decimal, Decimal.mk.injEq, List.length_drop, true_and]
      omega

end DigitRow

/-! ## Signs and names -/

namespace Decimal

theorem isDigit_of_mem_row {d : Decimal} {c : Char} (h : c ∈ d.row.digits) : isDigit c = true := by
  obtain ⟨k, hk⟩ := exists_dropTrailingZeros (Nat.toDigits 10 d.coefficient)
  refine isDigit_of_mem_toDigits (n := d.coefficient) ?_
  rw [hk]
  exact List.mem_append_left _ h

theorem row_ne_nil {d : Decimal} (h : d.roundToUnits ≠ 0) : d.row.digits ≠ [] := by
  intro hnil
  refine h ?_
  rw [← roundToUnits_row]
  refine roundToUnits_of_coefficient ?_
  rw [DigitRow.decimal, hnil]
  rfl

theorem head?_row_ne {d : Decimal} (h : d.roundToUnits ≠ 0) :
    d.row.digits.head? ≠ some '0' := by
  obtain ⟨k, hk⟩ := exists_dropTrailingZeros (Nat.toDigits 10 d.coefficient)
  have hdigits : Nat.toDigits 10 d.coefficient = d.row.digits ++ List.replicate k '0' := hk
  have hpos : 0 < d.coefficient :=
    Nat.pos_of_ne_zero fun hzero => h (roundToUnits_of_coefficient hzero)
  rw [← List.head?_append_of_ne_nil _ (row_ne_nil h), ← hdigits]
  exact head?_toDigits_ne hpos

end Decimal

/-- The digits and the place of the point that a number shows. -/
def NumberLayout.row (l : NumberLayout) (units : Nat) : DigitRow :=
  if units = 0 then ⟨['0'], 1⟩ else (Decimal.shortest l.tie units).row

namespace NumberLayout

variable {l : NumberLayout} {units : Nat}

theorem isDigit_of_mem_row {c : Char} (h : c ∈ (l.row units).digits) : isDigit c = true := by
  unfold row at h
  split at h
  · rw [List.mem_singleton.1 h]
    decide
  · exact Decimal.isDigit_of_mem_row h

/-- The digits of a number are read back to it. -/
theorem roundToUnits_row (h : Representable units) :
    (l.row units).decimal.roundToUnits = units := by
  unfold row
  split
  · next hzero =>
    rw [hzero]
    exact Decimal.roundToUnits_of_coefficient rfl
  · rw [Decimal.roundToUnits_row, Decimal.roundToUnits_shortest l.tie h]

theorem row_ne_nil (h : Representable units) : (l.row units).digits ≠ [] := by
  unfold row
  split
  · exact List.cons_ne_nil _ _
  · next hpos => exact Decimal.row_ne_nil (by rwa [Decimal.roundToUnits_shortest l.tie h])

/-- Only zero begins with a zero. -/
theorem row_of_head? (h : Representable units) (hhead : (l.row units).digits.head? = some '0') :
    l.row units = ⟨['0'], 1⟩ := by
  unfold row at hhead ⊢
  by_cases hzero : units = 0
  · rw [if_pos hzero]
  · rw [if_neg hzero] at hhead
    exact absurd hhead (Decimal.head?_row_ne (by rwa [Decimal.roundToUnits_shortest l.tie h]))

end NumberLayout

namespace DigitRow

variable {r : DigitRow}

/-- A row that is written with its point begins with a digit. -/
theorem exists_positional_eq_cons (hd : ∀ c ∈ r.digits, isDigit c = true) (hne : r.digits ≠ []) :
    ∃ c cs, r.positional false = c :: cs ∧ isDigit c = true := by
  obtain ⟨d, ds, hds⟩ := List.exists_cons_of_ne_nil hne
  have hdigit : isDigit d = true := hd d (hds ▸ List.mem_cons_self)
  unfold positional
  by_cases hsmall : r.point ≤ 0
  · rw [if_pos hsmall]
    exact ⟨'0', _, rfl, by decide⟩
  · rw [if_neg hsmall]
    by_cases hlarge : (r.digits.length : Int) ≤ r.point
    · rw [if_pos hlarge, hds]
      exact ⟨d, _, rfl, hdigit⟩
    · obtain ⟨k, hk⟩ : ∃ k, r.point.toNat = k + 1 := ⟨r.point.toNat - 1, by omega⟩
      rw [if_neg hlarge, hds, hk]
      exact ⟨d, _, rfl, hdigit⟩

theorem mem_positional {c : Char} (hd : ∀ c ∈ r.digits, isDigit c = true)
    (h : c ∈ r.positional false) : isDigit c = true ∨ c = '.' := by
  have hzero : isDigit '0' = true := by decide
  unfold positional at h
  split at h
  · simp only [List.mem_append, List.mem_cons, List.mem_replicate] at h
    rcases h with (rfl | rfl | ⟨-, rfl⟩) | hc
    · exact Or.inl hzero
    · exact Or.inr rfl
    · exact Or.inl hzero
    · exact Or.inl (hd c hc)
  · split at h
    · simp only [List.mem_append, List.mem_replicate] at h
      rcases h with (hc | ⟨-, rfl⟩) | hc
      · exact Or.inl (hd c hc)
      · exact Or.inl hzero
      · exact absurd hc List.not_mem_nil
    · simp only [List.mem_append, List.mem_cons] at h
      rcases h with hc | rfl | hc
      · exact Or.inl (hd c (List.mem_of_mem_take hc))
      · exact Or.inr rfl
      · exact Or.inl (hd c (List.mem_of_mem_drop hc))

end DigitRow

namespace Binary64

/-- Whether a number without its sign may begin with a character. -/
def StartsNumber (c : Char) : Prop := isDigit c = true ∨ c = '.'

theorem lowerAscii_of_startsNumber {c : Char} (h : StartsNumber c) : lowerAscii c = c := by
  unfold lowerAscii
  rw [if_neg]
  intro hcap
  obtain h | rfl := h
  · simp only [isDigit, Bool.and_eq_true, decide_eq_true_eq] at h
    exact absurd (Char.le_trans hcap.1 h.2) (by decide)
  · exact absurd hcap (by decide)

/-- What begins like a number is no name. -/
theorem ofUnsigned?_of_startsNumber (negative : Bool) {c : Char} (h : StartsNumber c)
    (cs : List Char) :
    ofUnsigned? negative (c :: cs) = (Decimal.read? (c :: cs)).map (ofDecimal negative) := by
  have hname (s : String) {d : Char} (hs : s.toList.head? = some d)
      (hd : isDigit d = false ∧ d ≠ '.') : String.ofList ((c :: cs).map lowerAscii) ≠ s := by
    intro heq
    rw [← heq, String.toList_ofList, List.map_cons, lowerAscii_of_startsNumber h] at hs
    cases hs
    obtain h | h := h
    · cases h.symm.trans hd.1
    · exact hd.2 h
  unfold ofUnsigned? infinityNames
  simp only [List.mem_cons, List.not_mem_nil, or_false]
  rw [if_neg, if_neg (hname "nan" rfl (by decide))]
  rintro (heq | heq)
  · exact hname "inf" rfl (by decide) heq
  · exact hname "infinity" rfl (by decide) heq

theorem ofChars?_of_startsNumber {c : Char} (h : StartsNumber c) (cs : List Char) :
    ofChars? (c :: cs) = ofUnsigned? false (c :: cs) := by
  unfold ofChars?
  split
  · next heq => cases heq; exact absurd h (by simp [StartsNumber, isDigit])
  · next heq => cases heq; exact absurd h (by simp [StartsNumber, isDigit])
  · rfl

/-- The characters of a finite number. -/
theorem toText_finite (negative : Bool) {units : Nat} (h : Representable units) :
    ∃ r : DigitRow, (∀ c ∈ r.digits, isDigit c = true) ∧ r.digits ≠ [] ∧
      r.decimal.roundToUnits = units ∧ (finite negative units h).toText.toList =
        if negative then '-' :: r.positional false else r.positional false := by
  refine ⟨NumberLayout.plain.row units, fun c => NumberLayout.isDigit_of_mem_row,
    NumberLayout.row_ne_nil h, NumberLayout.roundToUnits_row h, ?_⟩
  rw [toText, NumberLayout.write, NumberLayout.row]
  simp only [NumberLayout.plain, or_true, if_true, String.toList_ofList]

/-- A number reads back as it is written. -/
theorem ofText?_toText {x : Binary64} (h : x.isNan = false) : ofText? x.toText = some x := by
  cases x with
  | nan => cases h
  | infinite negative => cases negative <;> decide
  | finite negative units hrep =>
    obtain ⟨r, hd, hne, hround, htext⟩ := toText_finite negative hrep
    obtain ⟨c, cs, hcons, hc⟩ := r.exists_positional_eq_cons hd hne
    obtain ⟨d, hread, hvalue, hle⟩ := r.exists_read?_positional hd hne
    have hnumber (s : Bool) : ofUnsigned? s (r.positional false) =
        some (.finite s units hrep) := by
      rw [hcons, ofUnsigned?_of_startsNumber s (.inl hc), ← hcons, hread, Option.map_some,
        ofDecimal_eq_finite s hrep (hvalue.trans hround) hle]
    rw [ofText?, htext]
    cases negative with
    | true => exact hnumber true
    | false =>
      simp only [Bool.false_eq_true, if_false]
      rw [hcons, ofChars?_of_startsNumber (.inl hc), ← hcons]
      exact hnumber false

/-- A number is written without blanks, commas and parentheses. -/
theorem mem_toText {x : Binary64} (h : x.isNan = false) {c : Char} (hc : c ∈ x.toText.toList) :
    isDigit c = true ∨ c ∈ ['.', '-', 'i', 'n', 'f'] := by
  cases x with
  | nan => cases h
  | infinite negative =>
    have hall : ((infinite negative).toText.toList.all
        fun c => isDigit c || decide (c ∈ ['.', '-', 'i', 'n', 'f'])) = true := by
      cases negative <;> decide
    simpa only [Bool.or_eq_true, decide_eq_true_eq] using List.all_eq_true.1 hall c hc
  | finite negative units hrep =>
    obtain ⟨r, hd, -, -, htext⟩ := toText_finite negative hrep
    have hrow : c = '-' ∨ c ∈ r.positional false := by
      rw [htext] at hc
      cases negative with
      | true => exact List.mem_cons.1 hc
      | false => exact Or.inr hc
    rcases hrow with rfl | hc
    · exact Or.inr (by decide)
    · cases r.mem_positional hd hc with
      | inl hdigit => exact Or.inl hdigit
      | inr hpoint => exact Or.inr (by rw [hpoint]; decide)

end Binary64

end Argumentation
