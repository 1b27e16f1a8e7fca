import Argumentation.Proofs.Json.Numeral

/-!
# Numbers that are read exactly

A numeral is read with three roundings, of the coefficient, of the power of ten and of their
product or quotient, so it may be read as a neighbour of the nearest number.  But a coefficient
below `2 ^ 53` is a number itself, and so are the powers up to `10 ^ 22`, because `5 ^ 22` is
below `2 ^ 53`.  With such parts only the last rounding is left, and it gives the nearest number
(`scale?_of_short`).

So a number whose text has so few digits is read back as it was (`value?_of_isShort`).
-/

namespace Argumentation

namespace Json

/-! ## Parts that are not rounded -/

theorem representable_pow_ten {k : Nat} (hk : k ≤ 22) :
    Representable (Nat.pow 10 k * unitsOfOne) := by
  have hpow : Nat.pow 10 k = Nat.pow 5 k * Nat.pow 2 k := Nat.mul_pow 5 2 k
  have hfive : Nat.pow 5 k < Nat.pow 2 53 :=
    Nat.lt_of_le_of_lt (Nat.pow_le_pow_right (by decide) hk) (by decide : Nat.pow 5 22 < _)
  rw [hpow]
  exact representable_whole hfive hk

/-! ## One rounding -/

theorem ofNat_div_pow_ten {c k units : Nat} (hc : c < Nat.pow 2 53) (hk : k ≤ 22)
    (h : Representable units) (hround : roundUnits (c * unitsOfOne) (Nat.pow 10 k) = units) :
    Binary64.ofNat c / Binary64.ofNat (Nat.pow 10 k) = .finite false units h := by
  have hpositive : 0 < Nat.pow 10 k * unitsOfOne :=
    Nat.mul_pos (Nat.pow_pos (by decide)) unitsOfOne_pos
  rw [Binary64.ofNat_of_representable (representable_short hc),
    Binary64.ofNat_of_representable (representable_pow_ten hk),
    Binary64.finite_div_finite _ _ hpositive]
  refine Binary64.ofUnits_eq_finite h ?_
  rw [roundUnits_mul_mul _ _ unitsOfOne_pos, hround]

/-- A short coefficient is scaled by a short power of ten to the nearest number. -/
theorem scale?_of_short {c units : Nat} {e : Int} (hc : c < Nat.pow 2 53) (hlow : -22 ≤ e)
    (hhigh : e ≤ 22) (h : Representable units)
    (hround : (⟨c, e⟩ : Decimal).roundToUnits = units) :
    scale? c e = some (.finite false units h) := by
  unfold scale?
  by_cases he : 0 ≤ e
  · have hk : e.toNat ≤ 22 := by omega
    rw [Decimal.roundToUnits, Decimal.ratioOf_of_nonneg he] at hround
    have hvalue :=
      Binary64.ofNat_mul_ofNat (representable_short hc) (representable_pow_ten hk) h hround
    have hfinite : (Binary64.ofNat c * Binary64.ofNat (Nat.pow 10 e.toNat)).isFinite = true := by
      rw [hvalue]
      rfl
    have hsmall : e ≤ 308 := by omega
    simp only [if_pos he, if_pos hsmall]
    rw [if_pos hfinite, hvalue]
  · have hk : (-e).toNat ≤ 22 := by omega
    rw [Decimal.roundToUnits, Decimal.ratioOf_of_neg he] at hround
    have hvalue := ofNat_div_pow_ten hc hk h hround
    have hlarge : -308 ≤ e := by omega
    simp only [if_neg he, if_pos hlarge, hvalue]

/-- A short numeral denotes the nearest number. -/
theorem float?_of_short {n : Numeral} {units : Nat} (hc : n.decimal.coefficient < Nat.pow 2 53)
    (hlow : -22 ≤ n.decimal.exponent) (hhigh : n.decimal.exponent ≤ 22) (h : Representable units)
    (hround : n.decimal.roundToUnits = units) :
    n.float? = some (.finite n.negative units h) := by
  have hsize : digitsValue (n.whole ++ n.fraction.getD []) < UInt64.size :=
    Nat.lt_trans hc (by decide)
  have hvalue : digitsValue (n.whole ++ n.fraction.getD []) =
      Nat.ofDigitChars 10 (n.fraction.getD []) (digitsValue n.whole) := by
    rw [digitsValue_eq, Nat.ofDigitChars_append, ← digitsValue_eq]
  have hfraction : gather (digitsValue n.whole) (n.fraction.getD []) =
      (digitsValue (n.whole ++ n.fraction.getD []), []) := by
    rw [hvalue] at hsize ⊢
    exact gather_of_lt hsize
  have hwhole : gather 0 n.whole = (digitsValue n.whole, []) := by
    refine gather_of_lt (Nat.lt_of_le_of_lt ?_ hsize)
    rw [digitsValue_append]
    exact Nat.le_trans (Nat.le_mul_of_pos_right _ (Nat.pow_pos (by decide)))
      (Nat.le_add_right _ _)
  have hshift : (([] : List Char).length : Int) -
      ((n.fraction.getD []).length - ([] : List Char).length : Nat) + n.exponent.getD 0 =
        n.decimal.exponent := by
    simp only [List.length_nil, Numeral.decimal]
    omega
  unfold Numeral.float?
  simp only [hwhole, hfraction]
  rw [hshift]
  have hscaled := scale?_of_short hc hlow hhigh h hround
  rw [Numeral.decimal] at hscaled
  rw [Numeral.decimal, hscaled, Option.map_some]
  cases n.negative <;> rfl

/-! ## Short numbers -/

/-- Whether the text of a number has a coefficient below `2 ^ 53` and a power of ten of at most
`10 ^ 22` in either direction. -/
def IsShort (x : Binary64) : Prop :=
  let d := (Number.float x).numeral.decimal
  d.coefficient < Nat.pow 2 53 ∧ -22 ≤ d.exponent ∧ d.exponent ≤ 22

instance (x : Binary64) : Decidable (IsShort x) :=
  inferInstanceAs (Decidable ((Number.float x).numeral.decimal.coefficient < Nat.pow 2 53 ∧
    -22 ≤ (Number.float x).numeral.decimal.exponent ∧
    (Number.float x).numeral.decimal.exponent ≤ 22))

theorem negative_floatNumeral (negative : Bool) (units : Nat) :
    (floatNumeral negative units).negative = negative := by
  unfold floatNumeral positionalNumeral scientificNumeral
  split
  · split
    · rfl
    · split <;> rfl
  · rfl

/-- A number with a short text is read back as it was. -/
theorem value?_of_isShort {x : Binary64} (h : x.isFinite = true) (short : IsShort x) :
    (Number.float x).numeral.value? = some (.float x) := by
  match x with
  | .finite negative units hrep =>
    obtain ⟨hc, hlow, hhigh⟩ := short
    have hfloat := float?_of_short hc hlow hhigh hrep (roundToUnits_floatNumeral negative hrep)
    rw [Number.numeral] at hfloat ⊢
    rw [value?_floatNumeral, hfloat, negative_floatNumeral, Option.map_some]

end Json

end Argumentation
