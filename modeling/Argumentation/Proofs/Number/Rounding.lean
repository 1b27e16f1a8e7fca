import Argumentation.Number.Shortest

/-!
# Rounding depends on the value only

A quotient is rounded by its value: whatever numerator and denominator it is written with,
the same multiple of a unit is nearest (`roundUnits_congr`).  So a decimal may be shifted by
powers of ten (`roundToUnits_shift`), and it is read as the number that it rounds to
(`ofDecimal_eq_finite`), however small or long it is.
-/

namespace Argumentation

/-! ## Quotients -/

theorem divNearestEven_mul_mul (num den : Nat) {k : Nat} (hk : 0 < k) :
    divNearestEven (num * k) (den * k) = divNearestEven num den := by
  have hmod : num * k % (den * k) = num % den * k := Nat.mul_mod_mul_right k num den
  have hlow : 2 * (num % den * k) < den * k ↔ 2 * (num % den) < den := by
    rw [← Nat.mul_assoc]
    exact Nat.mul_lt_mul_right hk
  have hhigh : den * k < 2 * (num % den * k) ↔ den < 2 * (num % den) := by
    rw [← Nat.mul_assoc]
    exact Nat.mul_lt_mul_right hk
  unfold divNearestEven
  rw [hmod, Nat.mul_div_mul_right num den hk]
  simp only [hlow, hhigh]

theorem roundUnits_mul_mul (num den : Nat) {k : Nat} (hk : 0 < k) :
    roundUnits (num * k) (den * k) = roundUnits num den := by
  unfold roundUnits
  rw [Nat.mul_div_mul_right num den hk, Nat.mul_right_comm den k, divNearestEven_mul_mul _ _ hk]

/-- Equal quotients are rounded alike. -/
theorem roundUnits_congr {num den num' den' : Nat} (hd : 0 < den) (hd' : 0 < den')
    (h : num * den' = num' * den) : roundUnits num den = roundUnits num' den' := by
  rw [← roundUnits_mul_mul num den hd', ← roundUnits_mul_mul num' den' hd, h, Nat.mul_comm den]

/-- Less than half a unit is rounded to nothing. -/
theorem roundUnits_eq_zero {num den : Nat} (h : 2 * num < den) : roundUnits num den = 0 := by
  have hlt : num < den := by omega
  have hdiv : num / den = 0 := Nat.div_eq_of_lt hlt
  have hexcess : Nat.pow 2 (excessBits 0) = 1 := rfl
  unfold roundUnits
  rw [hdiv, hexcess, Nat.mul_one, Nat.mul_one]
  unfold divNearestEven
  rw [Nat.mod_eq_of_lt hlt, if_pos h, hdiv]

namespace Decimal

/-! ## Decimals -/

theorem ratioOf_pos (d : Decimal) : 0 < (Binary64.ratioOf d).2 := by
  unfold Binary64.ratioOf
  split
  · exact Nat.one_pos
  · exact Nat.pow_pos (by omega)

/-- A decimal with more zeros at its end. -/
def shift (d : Decimal) (k : Nat) : Decimal := ⟨d.coefficient * Nat.pow 10 k, d.exponent - k⟩

theorem pow_ten_add (m n : Nat) : Nat.pow 10 (m + n) = Nat.pow 10 m * Nat.pow 10 n :=
  Nat.pow_add 10 m n

theorem ratioOf_of_nonneg {d : Decimal} (h : 0 ≤ d.exponent) :
    Binary64.ratioOf d = (d.coefficient * Nat.pow 10 d.exponent.toNat, 1) := if_pos h

theorem ratioOf_of_neg {d : Decimal} (h : ¬0 ≤ d.exponent) :
    Binary64.ratioOf d = (d.coefficient, Nat.pow 10 (-d.exponent).toNat) := if_neg h

theorem ratioOf_shift (d : Decimal) (k : Nat) :
    (Binary64.ratioOf (d.shift k)).1 * (Binary64.ratioOf d).2 =
      (Binary64.ratioOf d).1 * (Binary64.ratioOf (d.shift k)).2 := by
  have hexponent : (d.shift k).exponent = d.exponent - k := rfl
  by_cases h : 0 ≤ (d.shift k).exponent
  · have hd : 0 ≤ d.exponent := by omega
    have hsum : d.exponent.toNat = k + (d.exponent - k).toNat := by omega
    rw [ratioOf_of_nonneg h, ratioOf_of_nonneg hd, hexponent, hsum, pow_ten_add,
      ← Nat.mul_assoc]
    rfl
  · by_cases hd : 0 ≤ d.exponent
    · have hsum : k = d.exponent.toNat + (-(d.exponent - k)).toNat := by omega
      rw [ratioOf_of_neg h, ratioOf_of_nonneg hd, hexponent, Nat.mul_one, Nat.mul_assoc,
        ← pow_ten_add, ← hsum]
      rfl
    · have hsum : (-(d.exponent - k)).toNat = k + (-d.exponent).toNat := by omega
      rw [ratioOf_of_neg h, ratioOf_of_neg hd, hexponent, hsum, pow_ten_add, ← Nat.mul_assoc]
      rfl

/-- Zeros at the end of a decimal do not change what it is rounded to. -/
theorem roundToUnits_shift (d : Decimal) (k : Nat) :
    (d.shift k).roundToUnits = d.roundToUnits := by
  refine roundUnits_congr (ratioOf_pos _) (ratioOf_pos d) ?_
  rw [Nat.mul_right_comm, ratioOf_shift, Nat.mul_right_comm]

theorem coefficient_lt (n : Nat) : n < Nat.pow 10 (width n) :=
  (Nat.length_toDigits_le_iff (by decide) Nat.length_toDigits_pos).1 (Nat.le_refl _)

theorem roundToUnits_of_coefficient {d : Decimal} (h : d.coefficient = 0) :
    d.roundToUnits = 0 := by
  have hnum : (Binary64.ratioOf d).1 = 0 := by
    unfold Binary64.ratioOf
    split <;> simp [h]
  refine roundUnits_eq_zero ?_
  rw [hnum, Nat.zero_mul]
  exact d.ratioOf_pos

theorem two_mul_unitsOfOne_lt {k : Nat} (hk : 400 ≤ k) : 2 * unitsOfOne < Nat.pow 10 k := by
  have hpow : 2 * unitsOfOne = Nat.pow 2 (fractionBits + 1) := by
    rw [unitsOfOne, two_pow_add, Nat.mul_comm]
  have hbits : fractionBits + 1 ≤ 3 * k := by
    unfold fractionBits
    omega
  calc 2 * unitsOfOne
      ≤ Nat.pow 2 (3 * k) := by rw [hpow]; exact Nat.pow_le_pow_right (by decide) hbits
    _ = Nat.pow (2 ^ 3) k := Nat.pow_mul 2 3 k
    _ < Nat.pow 10 k := Nat.pow_lt_pow_left (by decide) (by omega)

/-- What is below `10 ^ -400` is rounded to nothing. -/
theorem roundToUnits_of_tiny {d : Decimal} (h : d.exponent + width d.coefficient < -400) :
    d.roundToUnits = 0 := by
  have hneg : ¬0 ≤ d.exponent := by omega
  obtain ⟨k, hk⟩ : ∃ k, (-d.exponent).toNat = width d.coefficient + k :=
    ⟨(-d.exponent).toNat - width d.coefficient, by omega⟩
  have hlt : 2 * unitsOfOne < Nat.pow 10 k := two_mul_unitsOfOne_lt (by omega)
  refine roundUnits_eq_zero ?_
  rw [ratioOf_of_neg hneg]
  calc 2 * (d.coefficient * unitsOfOne)
      = d.coefficient * (2 * unitsOfOne) := Nat.mul_left_comm _ _ _
    _ ≤ Nat.pow 10 (width d.coefficient) * (2 * unitsOfOne) :=
        Nat.mul_le_mul_right _ (Nat.le_of_lt (coefficient_lt _))
    _ < Nat.pow 10 (width d.coefficient) * Nat.pow 10 k :=
        Nat.mul_lt_mul_of_pos_left hlt (Nat.pow_pos (by decide))
    _ = Nat.pow 10 (-d.exponent).toNat := by rw [hk, pow_ten_add]

end Decimal

namespace Binary64

theorem ofUnits_eq_finite {negative : Bool} {num den units : Nat} (h : Representable units)
    (hround : roundUnits num den = units) :
    ofUnits negative num den = .finite negative units h := by
  cases hround
  unfold ofUnits
  rw [dif_pos h.1]

theorem representable_zero {units : Nat} (h : Representable units) : Representable 0 :=
  ⟨Nat.lt_of_le_of_lt (Nat.zero_le units) h.1, 0, 0, two_pow_pos 53, (Nat.zero_mul _).symm⟩

/-- A decimal is read as the number that it rounds to. -/
theorem ofDecimal_eq_finite (negative : Bool) {d : Decimal} {units : Nat}
    (h : Representable units) (hround : d.roundToUnits = units) (hle : d.exponent ≤ 400) :
    ofDecimal negative d = .finite negative units h := by
  have hzero : ofRatio negative 0 1 = .finite negative 0 (representable_zero h) :=
    ofUnits_eq_finite _ (by rw [Nat.zero_mul]; exact roundUnits_eq_zero (by decide))
  unfold ofDecimal
  split
  · next htiny =>
    have hunits : units = 0 := by
      rw [← hround]
      cases htiny with
      | inl hc => exact Decimal.roundToUnits_of_coefficient hc
      | inr hlt => exact Decimal.roundToUnits_of_tiny hlt
    cases hunits
    exact hzero
  · rw [if_neg (by omega)]
    exact ofUnits_eq_finite h hround

end Binary64

end Argumentation
