import Argumentation.Proofs.Number.Rounding
import Mathlib.Data.Nat.Log

/-!
# Rounding keeps the order

A greater quotient is not rounded to less (`roundUnits_mono`): with the same number of kept bits
the nearest whole number grows with the quotient, and a quotient with more bits than another is
rounded to a power of two that the other does not exceed.  So of two decimals with the same
exponent the one with the greater coefficient is rounded to more (`roundToUnits_mono`).
-/

namespace Argumentation

/-! ## Whole numbers -/

theorem div_le_divNearestEven (num den : Nat) : num / den ≤ divNearestEven num den := by
  unfold divNearestEven
  split
  · exact Nat.le_refl _
  · split
    · exact Nat.le_add_right _ 1
    · split
      · exact Nat.le_refl _
      · exact Nat.le_add_right _ 1

/-- Of two quotients with the same whole part the one with the greater rest is rounded up if the
other one is. -/
theorem divNearestEven_mono {m n : Nat} (den : Nat) (h : m ≤ n) :
    divNearestEven m den ≤ divNearestEven n den := by
  have hdiv : m / den ≤ n / den := Nat.div_le_div_right h
  cases Nat.lt_or_eq_of_le hdiv with
  | inl hlt =>
    calc divNearestEven m den ≤ m / den + 1 := divNearestEven_le m den
      _ ≤ n / den := hlt
      _ ≤ divNearestEven n den := div_le_divNearestEven n den
  | inr heq =>
    have hm : den * (m / den) + m % den = m := Nat.div_add_mod m den
    have hn : den * (n / den) + n % den = n := Nat.div_add_mod n den
    rw [heq] at hm
    have hrest : m % den ≤ n % den := by omega
    unfold divNearestEven
    rw [heq]
    split_ifs <;> omega

/-! ## Units -/

theorem excessBits_mono {m n : Nat} (h : m ≤ n) : excessBits m ≤ excessBits n := by
  have hlog : m.log2 ≤ n.log2 := by
    rw [Nat.log2_eq_log_two, Nat.log2_eq_log_two]
    exact Nat.log_mono_right h
  exact Nat.sub_le_sub_right hlog 52

/-- What is rounded has at most one bit more than the 53 that are kept. -/
theorem roundUnits_le (num den : Nat) :
    roundUnits num den ≤ Nat.pow 2 (53 + excessBits (num / den)) := by
  have hkept := div_two_pow_excessBits_lt (num / den)
  have hround := divNearestEven_le num (den * Nat.pow 2 (excessBits (num / den)))
  rw [Nat.div_div_eq_div_mul] at hkept
  unfold roundUnits
  rw [two_pow_add]
  exact Nat.mul_le_mul_right _ (Nat.le_trans hround hkept)

/-- What is rounded has all of the 53 bits if there are more than these. -/
theorem le_roundUnits {num den : Nat} (h : 0 < excessBits (num / den)) :
    Nat.pow 2 (52 + excessBits (num / den)) ≤ roundUnits num den := by
  have hlog : 52 + excessBits (num / den) = (num / den).log2 := by
    unfold excessBits at h ⊢
    omega
  have hne : num / den ≠ 0 := by
    intro hzero
    rw [hzero] at h
    exact absurd h (by decide)
  have hle : Nat.pow 2 (52 + excessBits (num / den)) ≤ num / den := by
    rw [hlog]
    exact Nat.log2_self_le hne
  unfold roundUnits
  generalize excessBits (num / den) = k at hle ⊢
  rw [two_pow_add] at hle ⊢
  refine Nat.mul_le_mul_right _ (Nat.le_trans ?_ (div_le_divNearestEven _ _))
  rw [← Nat.div_div_eq_div_mul]
  exact (Nat.le_div_iff_mul_le (two_pow_pos k)).2 hle

/-- A greater quotient is not rounded to less. -/
theorem roundUnits_mono {m n : Nat} (den : Nat) (h : m ≤ n) :
    roundUnits m den ≤ roundUnits n den := by
  have hbits : excessBits (m / den) ≤ excessBits (n / den) :=
    excessBits_mono (Nat.div_le_div_right h)
  cases Nat.lt_or_eq_of_le hbits with
  | inl hlt =>
    calc roundUnits m den ≤ Nat.pow 2 (53 + excessBits (m / den)) := roundUnits_le m den
      _ ≤ Nat.pow 2 (52 + excessBits (n / den)) := Nat.pow_le_pow_right (by decide) (by omega)
      _ ≤ roundUnits n den := le_roundUnits (Nat.lt_of_le_of_lt (Nat.zero_le _) hlt)
  | inr heq =>
    unfold roundUnits
    rw [heq]
    exact Nat.mul_le_mul_right _ (divNearestEven_mono _ h)

namespace Decimal

/-- Of two decimals with the same exponent the one with the greater coefficient is not rounded to
less. -/
theorem roundToUnits_mono {m n : Nat} (exponent : Int) (h : m ≤ n) :
    (⟨m, exponent⟩ : Decimal).roundToUnits ≤ (⟨n, exponent⟩ : Decimal).roundToUnits := by
  unfold roundToUnits
  by_cases hexponent : 0 ≤ exponent
  · rw [ratioOf_of_nonneg hexponent, ratioOf_of_nonneg hexponent]
    exact roundUnits_mono _ (Nat.mul_le_mul_right _ (Nat.mul_le_mul_right _ h))
  · rw [ratioOf_of_neg hexponent, ratioOf_of_neg hexponent]
    exact roundUnits_mono _ (Nat.mul_le_mul_right _ h)

end Decimal

end Argumentation
