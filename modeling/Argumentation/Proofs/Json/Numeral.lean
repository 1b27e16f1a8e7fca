import Argumentation.Json.Reader
import Argumentation.Json.Writer
import Argumentation.Proofs.Json.Scaling
import Argumentation.Proofs.Number.RoundTrip

/-!
# Numerals read back

Every number that is written is a numeral (`numberChars_eq`), and a numeral is read back part by
part, up to where it cannot go on (`readNumeral?_chars`).

What the numeral of a floating-point number denotes need not be that number, since it is rounded
more than once.  But it is a number (`exists_value?_float`): the digits that are gathered denote
at most what all of them do, and the number nearest to that is not beyond the largest one.
-/

namespace Argumentation

namespace Json

/-! ## The characters of a numeral -/

/-- The point and the digits behind it. -/
def fractionChars : Option (List Char) → List Char
  | some ds => '.' :: ds
  | none => []

/-- An exponent, which always has its sign. -/
def exponentChars : Option Int → List Char
  | some e => 'e' :: (if e < 0 then '-' else '+') :: Nat.toDigits 10 e.natAbs
  | none => []

/-- The characters of a numeral. -/
def Numeral.chars (n : Numeral) : List Char :=
  (if n.negative then ['-'] else []) ++
    (n.whole ++ (fractionChars n.fraction ++ exponentChars n.exponent))

/-- A numeral as it has to be written: digits on both sides of the point, and no zero in front of
other digits. -/
structure Numeral.Proper (n : Numeral) : Prop where
  isDigit_whole : ∀ c ∈ n.whole, isDigit c = true
  whole_ne_nil : n.whole ≠ []
  whole_of_head? : n.whole.head? = some '0' → n.whole = ['0']
  isDigit_fraction : ∀ ds ∈ n.fraction, ∀ c ∈ ds, isDigit c = true
  fraction_ne_nil : ∀ ds ∈ n.fraction, ds ≠ []

/-- Whether a numeral ends in front of these characters. -/
def EndsNumeral (rest : List Char) : Prop :=
  ∀ c ∈ rest.head?, isDigit c = false ∧ c ≠ '.' ∧ c ≠ 'e' ∧ c ≠ 'E'

theorem endsNumeral_cons {c : Char} (cs : List Char)
    (h : isDigit c = false ∧ c ≠ '.' ∧ c ≠ 'e' ∧ c ≠ 'E') : EndsNumeral (c :: cs) :=
  fun _ hd => Option.some.inj hd ▸ h

/-! ## Reading -/

section Reading

variable {rest : List Char}

theorem spanDigits_append {ds : List Char} (hds : ∀ c ∈ ds, isDigit c = true)
    (hrest : ∀ c ∈ rest.head?, isDigit c = false) : spanDigits (ds ++ rest) = (ds, rest) := by
  have htake : rest.takeWhile isDigit = [] ∧ rest.dropWhile isDigit = rest := by
    cases rest with
    | nil => exact ⟨rfl, rfl⟩
    | cons c cs =>
      have hc : ¬isDigit c = true := by
        rw [hrest c rfl]
        exact Bool.false_ne_true
      exact ⟨List.takeWhile_cons_of_neg hc, List.dropWhile_cons_of_neg hc⟩
  rw [spanDigits, List.takeWhile_append_of_pos hds, List.dropWhile_append_of_pos hds, htake.1,
    htake.2, List.append_nil]

theorem readExponent?_append (e : Option Int) (hrest : EndsNumeral rest) :
    readExponent? (exponentChars e ++ rest) = some (e, rest) := by
  cases e with
  | none =>
    cases rest with
    | nil => rfl
    | cons c cs =>
      obtain ⟨-, -, he, hE⟩ := hrest c rfl
      exact if_neg (not_or.2 ⟨he, hE⟩)
  | some e =>
    have hspan : spanDigits (Nat.toDigits 10 e.natAbs ++ rest) = (Nat.toDigits 10 e.natAbs, rest) :=
      spanDigits_append (fun c => isDigit_of_mem_toDigits) fun c hc => (hrest c hc).1
    have hvalue : digitsValue (Nat.toDigits 10 e.natAbs) = e.natAbs := Nat.ofDigitChars_ten_toDigits
    by_cases hneg : e < 0
    · simp only [exponentChars, if_pos hneg, List.cons_append, readExponent?, true_or, if_true,
        hspan, Nat.toDigits_ne_nil, if_false, hvalue]
      rw [Int.ofNat_natAbs_of_nonpos (by omega), Int.neg_neg]
    · simp only [exponentChars, if_neg hneg, List.cons_append, readExponent?, true_or, if_true,
        hspan, Nat.toDigits_ne_nil, if_false, hvalue, Bool.false_eq_true]
      rw [Int.natAbs_of_nonneg (by omega)]

theorem readFraction?_append {f : Option (List Char)}
    (hdigits : ∀ ds ∈ f, ∀ c ∈ ds, isDigit c = true)
    (hne : ∀ ds ∈ f, ds ≠ []) (hrest : ∀ c ∈ rest.head?, isDigit c = false ∧ c ≠ '.') :
    readFraction? (fractionChars f ++ rest) = some (f, rest) := by
  cases f with
  | none =>
    unfold fractionChars readFraction?
    split
    · next heq =>
      rw [List.nil_append] at heq
      exact absurd rfl (hrest '.' (by rw [heq]; rfl)).2
    · rfl
  | some ds =>
    have hspan : spanDigits (ds ++ rest) = (ds, rest) :=
      spanDigits_append (hdigits ds rfl) fun c hc => (hrest c hc).1
    simp only [fractionChars, List.cons_append, readFraction?, hspan, if_neg (hne ds rfl)]

theorem head?_exponentChars_append (e : Option Int) (hrest : EndsNumeral rest) :
    ∀ c ∈ (exponentChars e ++ rest).head?, isDigit c = false ∧ c ≠ '.' := by
  cases e with
  | none => exact fun c hc => ⟨(hrest c hc).1, (hrest c hc).2.1⟩
  | some e =>
    rintro c ⟨⟩
    decide

theorem head?_fractionChars_append (f : Option (List Char)) {rest : List Char}
    (hrest : ∀ c ∈ rest.head?, isDigit c = false ∧ c ≠ '.') :
    ∀ c ∈ (fractionChars f ++ rest).head?, isDigit c = false := by
  cases f with
  | none => exact fun c hc => (hrest c hc).1
  | some ds =>
    rintro c ⟨⟩
    decide

/-- A numeral is read back part by part. -/
theorem readNumeral?_chars {n : Numeral} (h : n.Proper) (hrest : EndsNumeral rest) :
    readNumeral? (n.chars ++ rest) = some (n, rest) := by
  obtain ⟨negative, whole, fraction, exponent⟩ := n
  obtain ⟨hwhole, hne, hhead, hdigits, hfraction⟩ := h
  have hexponent := head?_exponentChars_append exponent hrest
  have hspan := spanDigits_append hwhole (head?_fractionChars_append fraction hexponent)
  have hlone : ¬(whole = [] ∨ (whole.head? = some '0' ∧ whole ≠ ['0'])) :=
    fun hor => hor.elim hne fun hzero => hzero.2 (hhead hzero.1)
  have hparts {negative : Bool} : (readFraction? (fractionChars fraction ++
      (exponentChars exponent ++ rest))).bind (fun f => (readExponent? f.2).bind fun e =>
        some ((⟨negative, whole, f.1, e.1⟩ : Numeral), e.2)) =
      some (⟨negative, whole, fraction, exponent⟩, rest) := by
    rw [readFraction?_append hdigits hfraction hexponent, Option.bind_some,
      readExponent?_append exponent hrest, Option.bind_some]
  unfold readNumeral?
  simp only [Numeral.chars, List.append_assoc]
  cases negative with
  | true =>
    simp only [if_true, List.singleton_append, hspan, if_neg hlone]
    exact hparts
  | false =>
    simp only [Bool.false_eq_true, if_false, List.nil_append]
    split
    · next heq =>
      obtain ⟨d, ds, rfl⟩ := List.exists_cons_of_ne_nil hne
      obtain rfl : d = '-' := (List.cons.inj heq).1
      exact absurd (hwhole '-' List.mem_cons_self) (by decide)
    · simp only [hspan, if_neg hlone]
      exact hparts

end Reading

/-! ## What a numeral denotes -/

theorem digitsValue_append (cs ds : List Char) :
    digitsValue (cs ++ ds) = digitsValue cs * Nat.pow 10 ds.length + digitsValue ds := by
  rw [digitsValue_eq, Nat.ofDigitChars_append, Nat.ofDigitChars_eq_ofDigitChars_zero, Nat.mul_comm]
  rfl

theorem digitsValue_lt {ds : List Char} (h : ∀ c ∈ ds, isDigit c = true) :
    digitsValue ds < Nat.pow 10 ds.length := by
  induction ds with
  | nil => decide
  | cons c ds ih =>
    have hdigit : digitValue c < 10 := by
      have hc := h c List.mem_cons_self
      simp only [isDigit, Bool.and_eq_true, decide_eq_true_eq] at hc
      have hle : c.toNat ≤ '9'.toNat := hc.2
      have hnine : '9'.toNat = '0'.toNat + 9 := rfl
      unfold digitValue
      omega
    have htail := ih fun d hd => h d (List.mem_cons_of_mem c hd)
    have hvalue : digitsValue (c :: ds) = digitValue c * Nat.pow 10 ds.length + digitsValue ds := by
      have hone : digitsValue [c] = digitValue c := Nat.zero_add _
      rw [← hone]
      exact digitsValue_append [c] ds
    have hle : digitValue c * Nat.pow 10 ds.length + Nat.pow 10 ds.length ≤
        10 * Nat.pow 10 ds.length := by
      rw [← Nat.succ_mul]
      exact Nat.mul_le_mul_right _ hdigit
    have hpow : Nat.pow 10 (c :: ds).length = 10 * Nat.pow 10 ds.length := Nat.pow_succ'
    omega

/-- The digits that are gathered and the ones that are left. -/
theorem exists_gather {n : Nat} (cs : List Char) (hn : n < UInt64.size) :
    ∃ taken, cs = taken ++ (gather n cs).2 ∧ (gather n cs).1 = Nat.ofDigitChars 10 taken n ∧
      (gather n cs).1 < UInt64.size := by
  induction cs generalizing n with
  | nil => exact ⟨[], rfl, rfl, hn⟩
  | cons c cs ih =>
    unfold gather
    by_cases hroom : 10 * n + digitValue c < UInt64.size
    · obtain ⟨taken, hsplit, hvalue, hlt⟩ := ih hroom
      rw [if_pos hroom]
      exact ⟨c :: taken, congrArg (c :: ·) hsplit, hvalue, hlt⟩
    · rw [if_neg hroom]
      exact ⟨[], rfl, rfl, hn⟩

/-- The digits of a number below `2 ^ 64` are all gathered. -/
theorem gather_of_lt {n : Nat} {cs : List Char} (h : Nat.ofDigitChars 10 cs n < UInt64.size) :
    gather n cs = (Nat.ofDigitChars 10 cs n, []) := by
  induction cs generalizing n with
  | nil => rfl
  | cons c cs ih =>
    have hvalue : Nat.ofDigitChars 10 (c :: cs) n =
        Nat.ofDigitChars 10 cs (10 * n + digitValue c) := rfl
    have hroom : 10 * n + digitValue c < UInt64.size := by
      rw [hvalue, Nat.ofDigitChars_eq_ofDigitChars_zero] at h
      have hle : 10 * n + digitValue c ≤ 10 ^ cs.length * (10 * n + digitValue c) :=
        Nat.le_mul_of_pos_left _ (Nat.pow_pos (by decide))
      omega
    rw [hvalue] at h ⊢
    rw [gather, if_pos hroom, ih h]

/-- The decimal that a numeral stands for. -/
def Numeral.decimal (n : Numeral) : Decimal :=
  ⟨digitsValue (n.whole ++ n.fraction.getD []), n.exponent.getD 0 - (n.fraction.getD []).length⟩

/-- A coefficient with the digits that follow it, of which some are left out, denotes at most what
all of them do. -/
theorem roundToUnits_taken_le (cs taken left : List Char) (e : Int) :
    (⟨digitsValue (cs ++ taken), e - taken.length⟩ : Decimal).roundToUnits ≤
      (⟨digitsValue (cs ++ (taken ++ left)),
        e - (taken ++ left).length⟩ : Decimal).roundToUnits := by
  have hexponent : e - taken.length - left.length = e - (taken ++ left).length := by
    rw [List.length_append]
    omega
  calc (⟨digitsValue (cs ++ taken), e - taken.length⟩ : Decimal).roundToUnits
      = (⟨digitsValue (cs ++ taken) * Nat.pow 10 left.length,
          e - (taken ++ left).length⟩ : Decimal).roundToUnits := by
        rw [← Decimal.roundToUnits_shift _ left.length, Decimal.shift, hexponent]
    _ ≤ _ := by
        rw [← List.append_assoc, digitsValue_append (cs ++ taken)]
        exact Decimal.roundToUnits_mono _ (Nat.le_add_right _ _)

/-- A numeral whose decimal is below the largest number denotes a number. -/
theorem isSome_float? {n : Numeral} (hwhole : digitsValue n.whole < UInt64.size)
    (h : n.decimal.roundToUnits < largestUnits) : n.float?.isSome = true := by
  obtain ⟨taken, hsplit, hvalue, hlt⟩ := exists_gather (n.fraction.getD []) hwhole
  have hgather : gather (digitsValue n.whole) (n.fraction.getD []) =
      (digitsValue (n.whole ++ taken), (gather (digitsValue n.whole) (n.fraction.getD [])).2) := by
    refine Prod.ext (hvalue.trans ?_) rfl
    rw [digitsValue_eq (n.whole ++ taken), Nat.ofDigitChars_append]
    rfl
  rw [hgather] at hlt
  generalize (gather (digitsValue n.whole) (n.fraction.getD [])).2 = left at hsplit hgather
  have hscaled := isSome_scale? hlt (Nat.lt_of_le_of_lt (roundToUnits_taken_le _ _ left _)
    (by rwa [Numeral.decimal, hsplit] at h))
  have hall : gather 0 n.whole = (digitsValue n.whole, []) := gather_of_lt hwhole
  have hshift : (([] : List Char).length : Int) - ((taken ++ left).length - left.length : Nat) +
      n.exponent.getD 0 = n.exponent.getD 0 - taken.length := by
    simp only [List.length_nil, List.length_append]
    omega
  unfold Numeral.float?
  simp only [hall, hgather]
  rw [hsplit, hshift, Option.isSome_map]
  exact hscaled

/-! ## The numerals that are written -/

/-- The numeral of a row of digits with the point in its place. -/
def positionalNumeral (negative : Bool) (r : DigitRow) : Numeral :=
  if r.point ≤ 0 then
    ⟨negative, ['0'], some (List.replicate (-r.point).toNat '0' ++ r.digits), none⟩
  else if (r.digits.length : Int) ≤ r.point then
    ⟨negative, r.digits ++ List.replicate (r.point - r.digits.length).toNat '0', some ['0'], none⟩
  else ⟨negative, r.digits.take r.point.toNat, some (r.digits.drop r.point.toNat), none⟩

/-- The numeral of a row of digits with the point behind the first one. -/
def scientificNumeral (negative : Bool) (r : DigitRow) : Numeral :=
  ⟨negative, r.digits.take 1, if r.digits.length ≤ 1 then none else some (r.digits.drop 1),
    some (r.point - 1)⟩

/-- The numeral of a finite number. -/
def floatNumeral (negative : Bool) (units : Nat) : Numeral :=
  if units = 0 ∨ NumberLayout.json.isPositional ((NumberLayout.json.row units).point - 1) then
    positionalNumeral negative (NumberLayout.json.row units)
  else scientificNumeral negative (NumberLayout.json.row units)

/-- The numeral of a number.  Only finite numbers have one, so what stands for the others does not
matter. -/
def Number.numeral : Number → Numeral
  | .integer n => ⟨n < 0, Nat.toDigits 10 n.natAbs, none, none⟩
  | .float (.finite negative units _) => floatNumeral negative units
  | .float _ => floatNumeral false 0

/-- Whether a number has a numeral. -/
def Number.isFinite : Number → Bool
  | .integer _ => true
  | .float x => x.isFinite

section Writing

variable {r : DigitRow} (negative : Bool)

theorem positionalNumeral_chars : (positionalNumeral negative r).chars =
    (if negative then ['-'] else []) ++ r.positional true := by
  unfold positionalNumeral DigitRow.positional
  split
  · rw [Numeral.chars, fractionChars, exponentChars, List.append_nil]
    rfl
  · split
    · rw [Numeral.chars, fractionChars, exponentChars, List.append_nil]
      rfl
    · rw [Numeral.chars, fractionChars, exponentChars, List.append_nil]

theorem scientific_eq (r : DigitRow) : r.scientific true =
    (match r.digits with
      | d :: e :: ds => d :: '.' :: e :: ds
      | ds => ds) ++ exponentChars (some (r.point - 1)) := by
  unfold DigitRow.scientific exponentChars
  by_cases he : r.point - 1 < 0
  · simp only [if_pos he]
    exact List.append_assoc _ _ _
  · simp only [if_neg he]
    exact List.append_assoc _ _ _

theorem scientificNumeral_chars (hne : r.digits ≠ []) : (scientificNumeral negative r).chars =
    (if negative then ['-'] else []) ++ r.scientific true := by
  rw [scientific_eq, scientificNumeral]
  generalize r.digits = digits at hne
  match digits, hne with
  | [d], _ => rfl
  | d :: e :: ds, _ =>
    have hlong : ¬(d :: e :: ds).length ≤ 1 := Nat.not_le_of_lt (Nat.le_add_left 2 _)
    rw [if_neg hlong]
    rfl

/-- A number is written as its numeral. -/
theorem numberChars_eq {n : Number} (h : n.isFinite = true) : numberChars n = n.numeral.chars := by
  match n with
  | .integer n =>
    rw [numberChars, integerChars, Number.numeral, Numeral.chars, fractionChars, exponentChars,
      List.append_nil, List.append_nil]
    by_cases hneg : n < 0
    · rw [if_pos hneg, if_pos (decide_eq_true hneg), List.singleton_append]
    · rw [if_neg hneg, if_neg (ne_true_of_eq_false (decide_eq_false hneg)), List.nil_append]
  | .float (.finite negative units hrep) =>
    have hne : (NumberLayout.json.row units).digits ≠ [] := NumberLayout.row_ne_nil hrep
    have hwrite : numberChars (.float (.finite negative units hrep)) =
        (if negative then ['-'] else []) ++
          if units = 0 ∨ NumberLayout.json.isPositional ((NumberLayout.json.row units).point - 1)
          then (NumberLayout.json.row units).positional true
          else (NumberLayout.json.row units).scientific true := by
      rw [numberChars, NumberLayout.write, String.toList_ofList]
      cases negative <;> rfl
    rw [hwrite, Number.numeral, floatNumeral]
    by_cases hpositional :
        units = 0 ∨ NumberLayout.json.isPositional ((NumberLayout.json.row units).point - 1)
    · rw [if_pos hpositional, if_pos hpositional, positionalNumeral_chars]
    · rw [if_neg hpositional, if_neg hpositional, scientificNumeral_chars negative hne]

/-- A row is a proper numeral with the point in its place, unless it begins with a zero for no
reason. -/
theorem proper_positionalNumeral (hd : ∀ c ∈ r.digits, isDigit c = true) (hne : r.digits ≠ [])
    (hzero : r.digits.head? = some '0' → r = ⟨['0'], 1⟩) :
    (positionalNumeral negative r).Proper := by
  have hzeros {k : Nat} : ∀ c ∈ List.replicate k '0', isDigit c = true :=
    fun c => DigitRow.isDigit_of_mem_zeros
  unfold positionalNumeral
  by_cases hsmall : r.point ≤ 0
  · rw [if_pos hsmall]
    refine ⟨List.forall_mem_singleton.2 (by decide), List.cons_ne_nil _ _, fun _ => rfl, ?_, ?_⟩
    · rintro ds ⟨⟩ c hc
      exact (List.mem_append.1 hc).elim (hzeros c) (hd c)
    · rintro ds ⟨⟩
      exact List.append_ne_nil_of_right_ne_nil _ hne
  · rw [if_neg hsmall]
    by_cases hlarge : (r.digits.length : Int) ≤ r.point
    · rw [if_pos hlarge]
      refine ⟨fun c hc => (List.mem_append.1 hc).elim (hd c) (hzeros c),
        List.append_ne_nil_of_left_ne_nil hne _, fun hhead => ?_, ?_, ?_⟩
      · rw [List.head?_append_of_ne_nil _ hne] at hhead
        rw [hzero hhead]
        rfl
      · rintro ds ⟨⟩
        exact hzeros (k := 1)
      · rintro ds ⟨⟩
        exact List.cons_ne_nil _ _
    · rw [if_neg hlarge]
      obtain ⟨d, ds, hcons⟩ := List.exists_cons_of_ne_nil hne
      obtain ⟨k, hk⟩ : ∃ k, r.point.toNat = k + 1 := ⟨r.point.toNat - 1, by omega⟩
      refine ⟨fun c hc => hd c (List.mem_of_mem_take hc), ?_, fun hhead => ?_, ?_, ?_⟩
      · simp only [hcons, hk, List.take_succ_cons]
        exact List.cons_ne_nil _ _
      · rw [hcons, hk, List.take_succ_cons, List.head?_cons, ← List.head?_cons (l := ds), ← hcons]
          at hhead
        rw [hzero hhead] at hlarge
        exact absurd (Int.le_refl _) hlarge
      · rintro ds ⟨⟩ c hc
        exact hd c (List.mem_of_mem_drop hc)
      · rintro ds ⟨⟩ hnil
        have hlen := List.drop_eq_nil_iff.1 hnil
        omega

theorem proper_scientificNumeral (hd : ∀ c ∈ r.digits, isDigit c = true) (hne : r.digits ≠ []) :
    (scientificNumeral negative r).Proper := by
  obtain ⟨d, ds, hcons⟩ := List.exists_cons_of_ne_nil hne
  unfold scientificNumeral
  refine ⟨fun c hc => hd c (List.mem_of_mem_take hc), ?_, fun hhead => ?_, ?_, ?_⟩
  · rw [hcons]
    exact List.cons_ne_nil _ _
  · rw [hcons] at hhead ⊢
    exact congrArg (fun c => [c]) (Option.some.inj hhead)
  · intro fraction hfraction c hc
    split at hfraction
    · cases hfraction
    · cases hfraction
      exact hd c (List.mem_of_mem_drop hc)
  · intro fraction hfraction hnil
    split at hfraction
    · cases hfraction
    · next hlong =>
      cases hfraction
      exact hlong (List.drop_eq_nil_iff.1 hnil)

/-- With the point in its place a row stands for its decimal. -/
theorem roundToUnits_positionalNumeral :
    (positionalNumeral negative r).decimal.roundToUnits = r.decimal.roundToUnits := by
  unfold positionalNumeral
  by_cases hsmall : r.point ≤ 0
  · rw [if_pos hsmall]
    have hvalue : digitsValue (['0'] ++ (List.replicate (-r.point).toNat '0' ++ r.digits)) =
        digitsValue r.digits :=
      (digitsValue_zeros_append 1 _).trans (digitsValue_zeros_append _ _)
    refine congrArg Decimal.roundToUnits ?_
    simp only [Numeral.decimal, Option.getD_some, Option.getD_none, hvalue, DigitRow.decimal,
      Decimal.mk.injEq, List.length_append, List.length_replicate, true_and]
    omega
  · rw [if_neg hsmall]
    by_cases hlarge : (r.digits.length : Int) ≤ r.point
    · rw [if_pos hlarge,
        ← Decimal.roundToUnits_shift r.decimal ((r.point - r.digits.length).toNat + 1)]
      have hzeros : r.digits ++ List.replicate (r.point - r.digits.length).toNat '0' ++ ['0'] =
          r.digits ++ List.replicate ((r.point - r.digits.length).toNat + 1) '0' := by
        rw [List.replicate_succ', List.append_assoc]
      refine congrArg Decimal.roundToUnits ?_
      simp only [Numeral.decimal, Option.getD_some, Option.getD_none, hzeros,
        digitsValue_append_zeros, DigitRow.decimal, Decimal.shift, Decimal.mk.injEq,
        List.length_singleton, true_and]
      omega
    · rw [if_neg hlarge]
      refine congrArg Decimal.roundToUnits ?_
      simp only [Numeral.decimal, Option.getD_some, Option.getD_none, List.take_append_drop,
        DigitRow.decimal, Decimal.mk.injEq, List.length_drop, true_and]
      omega

theorem decimal_scientificNumeral (hne : r.digits ≠ []) :
    (scientificNumeral negative r).decimal = r.decimal := by
  have hpos : 0 < r.digits.length := List.length_pos_of_ne_nil hne
  unfold scientificNumeral
  by_cases hlone : r.digits.length ≤ 1
  · simp only [if_pos hlone, Numeral.decimal, Option.getD_some, Option.getD_none, DigitRow.decimal,
      List.append_nil, List.take_of_length_le hlone, Decimal.mk.injEq, List.length_nil, true_and]
    omega
  · simp only [if_neg hlone, Numeral.decimal, Option.getD_some, List.take_append_drop,
      DigitRow.decimal, Decimal.mk.injEq, List.length_drop, true_and]
    omega

end Writing

/-! ## Numbers read back -/

/-- The numeral of a number that has one can be read. -/
theorem proper_numeral {n : Number} (h : n.isFinite = true) : n.numeral.Proper := by
  match n with
  | .integer n =>
    refine ⟨fun c => isDigit_of_mem_toDigits, Nat.toDigits_ne_nil, fun hhead => ?_, nofun, nofun⟩
    have hzero : n.natAbs = 0 :=
      Nat.eq_zero_of_not_pos fun hpos => absurd hhead (head?_toDigits_ne hpos)
    rw [Number.numeral, hzero]
    rfl
  | .float (.finite negative units hrep) =>
    have hd : ∀ c ∈ (NumberLayout.json.row units).digits, isDigit c = true :=
      fun c => NumberLayout.isDigit_of_mem_row
    have hne : (NumberLayout.json.row units).digits ≠ [] := NumberLayout.row_ne_nil hrep
    rw [Number.numeral, floatNumeral]
    split
    · exact proper_positionalNumeral negative hd hne (NumberLayout.row_of_head? hrep)
    · exact proper_scientificNumeral negative hd hne

/-- A number is read back as its numeral. -/
theorem readNumeral?_numberChars {n : Number} (h : n.isFinite = true) {rest : List Char}
    (hrest : EndsNumeral rest) :
    readNumeral? (numberChars n ++ rest) = some (n.numeral, rest) := by
  rw [numberChars_eq h, readNumeral?_chars (proper_numeral h) hrest]

theorem value?_natural {n : Nat} (h : n < UInt64.size) :
    (Number.integer n).numeral.value? = some (.integer n) := by
  have hvalue : digitsValue (Nat.toDigits 10 n) = n := Nat.ofDigitChars_ten_toDigits
  have hsign : ¬(n : Int) < 0 := by omega
  simp only [Number.numeral, Numeral.value?, Int.natAbs_natCast, hvalue, Option.isSome_none,
    Bool.false_eq_true, false_or, if_neg (Nat.not_le_of_lt h), decide_eq_false hsign,
    Bool.not_false, if_true]

section Floats

variable {units : Nat} (negative : Bool)

theorem roundToUnits_floatNumeral (h : Representable units) :
    (floatNumeral negative units).decimal.roundToUnits = units := by
  have hround : (NumberLayout.json.row units).decimal.roundToUnits = units :=
    NumberLayout.roundToUnits_row h
  unfold floatNumeral
  split
  · rw [roundToUnits_positionalNumeral, hround]
  · rw [decimal_scientificNumeral negative (NumberLayout.row_ne_nil h), hround]

theorem length_whole_positionalNumeral {r : DigitRow} (h : r.point ≤ 16) :
    (positionalNumeral negative r).whole.length ≤ 16 := by
  unfold positionalNumeral
  split
  · exact Nat.le_of_ble_eq_true rfl
  · split
    · simp only [List.length_append, List.length_replicate]
      omega
    · simp only [List.length_take]
      omega

/-- At most sixteen digits stand before the point. -/
theorem length_whole_floatNumeral : (floatNumeral negative units).whole.length ≤ 16 := by
  unfold floatNumeral
  split
  · next hpositional =>
    refine length_whole_positionalNumeral negative ?_
    cases hpositional with
    | inl hzero =>
      rw [NumberLayout.row, if_pos hzero]
      decide
    | inr hplace =>
      simp only [NumberLayout.json, Bool.and_eq_true, decide_eq_true_eq] at hplace ⊢
      omega
  · exact Nat.le_trans (List.length_take_le 1 _) (by decide)

/-- The digits before the point are all gathered. -/
theorem digitsValue_whole_floatNumeral (h : Representable units) :
    digitsValue (floatNumeral negative units).whole < UInt64.size := by
  have hproper : (floatNumeral negative units).Proper :=
    proper_numeral (n := .float (.finite negative units h)) rfl
  calc digitsValue (floatNumeral negative units).whole
      < Nat.pow 10 (floatNumeral negative units).whole.length :=
        digitsValue_lt hproper.isDigit_whole
    _ ≤ Nat.pow 10 16 := Nat.pow_le_pow_right (by decide) (length_whole_floatNumeral negative)
    _ < UInt64.size := by decide

/-- A floating-point number is written with a point or with an exponent. -/
theorem isSome_fraction_or_exponent :
    (floatNumeral negative units).fraction.isSome = true ∨
      (floatNumeral negative units).exponent.isSome = true := by
  unfold floatNumeral
  split
  · refine Or.inl ?_
    unfold positionalNumeral
    split
    · rfl
    · split <;> rfl
  · exact Or.inr rfl

/-- The text of the largest number is read as a number. -/
theorem isSome_float?_largest : (floatNumeral negative largestUnits).float?.isSome = true := by
  cases negative <;> decide +kernel

/-- The text of a finite number is read as a number. -/
theorem isSome_float?_floatNumeral (h : Representable units) :
    (floatNumeral negative units).float?.isSome = true := by
  cases Nat.lt_or_eq_of_le h.le_largestUnits with
  | inl hlt =>
    refine isSome_float? (digitsValue_whole_floatNumeral negative h) ?_
    rwa [roundToUnits_floatNumeral negative h]
  | inr hlargest =>
    rw [hlargest]
    exact isSome_float?_largest negative

theorem value?_floatNumeral : (floatNumeral negative units).value? =
    (floatNumeral negative units).float?.map .float := by
  unfold Numeral.value?
  rw [if_pos]
  exact (isSome_fraction_or_exponent negative).imp_right Or.inl

end Floats

/-- Every number that is written denotes a number. -/
theorem exists_value?_float {x : Binary64} (h : x.isFinite = true) :
    ∃ y, (Number.float x).numeral.value? = some (.float y) := by
  match x with
  | .finite negative units hrep =>
    obtain ⟨y, hy⟩ := Option.isSome_iff_exists.1 (isSome_float?_floatNumeral negative hrep)
    exact ⟨y, by rw [Number.numeral, value?_floatNumeral, hy, Option.map_some]⟩

end Json

end Argumentation
