import Argumentation.Json.Document
import Argumentation.Proofs.Number.Natural

/-!
# Numerals that do not overflow

A numeral is read as a coefficient of 64 bits, which is rounded, times a power of ten, which is
rounded as well, and the product is rounded once more.  So a numeral may run over although the
number that is nearest to it does not: `1.7976931348623158e308` does, and the nearest number is
the largest of all.  That happens to the largest number only.  For each power of ten there is a
coefficient up to which no product runs over, and what is above it is rounded to the largest
number or beyond (`coefficientLimit_safe`).
-/

namespace Argumentation

/-! ## The largest number -/

/-- The units of the largest finite number. -/
def largestUnits : Nat := unitsBound - Nat.pow 2 largestShift

/-- No number stands between the largest one and the bound of the format. -/
theorem mul_two_pow_add_le {m s b : Nat} (hm : m < Nat.pow 2 53)
    (h : m * Nat.pow 2 s < Nat.pow 2 53 * Nat.pow 2 b) :
    m * Nat.pow 2 s + Nat.pow 2 b ≤ Nat.pow 2 53 * Nat.pow 2 b := by
  by_cases hs : s ≤ b
  · calc m * Nat.pow 2 s + Nat.pow 2 b
        ≤ m * Nat.pow 2 b + Nat.pow 2 b :=
          Nat.add_le_add_right (Nat.mul_le_mul_left m (Nat.pow_le_pow_right (by decide) hs)) _
      _ = (m + 1) * Nat.pow 2 b := (Nat.succ_mul m _).symm
      _ ≤ Nat.pow 2 53 * Nat.pow 2 b := Nat.mul_le_mul_right _ hm
  · obtain ⟨t, rfl⟩ : ∃ t, s = t + b := ⟨s - b, by omega⟩
    rw [two_pow_add, ← Nat.mul_assoc] at h ⊢
    rw [← Nat.succ_mul]
    exact Nat.mul_le_mul_right _ (Nat.lt_of_mul_lt_mul_right h)

theorem Representable.le_largestUnits {units : Nat} (h : Representable units) :
    units ≤ largestUnits := by
  obtain ⟨hlt, m, s, hm, rfl⟩ := h
  have hstep := mul_two_pow_add_le hm (unitsBound_eq ▸ hlt)
  have hbound := unitsBound_eq
  unfold largestUnits
  omega

namespace Json

/-! ## Powers of ten -/

theorem pow_ten_le {m n : Nat} (h : m ≤ n) : Nat.pow 10 m ≤ Nat.pow 10 n :=
  Nat.pow_le_pow_right (by decide) h

/-- The units of the number nearest to a power of ten. -/
def powerUnits (k : Nat) : Nat := natUnits (Nat.pow 10 k)

theorem powerUnits_mono {k l : Nat} (h : k ≤ l) : powerUnits k ≤ powerUnits l :=
  natUnits_mono (pow_ten_le h)

theorem powerUnits_lt {k : Nat} (hk : k ≤ 308) : powerUnits k < unitsBound := by
  have hlargest : powerUnits 308 < unitsBound := by decide +kernel
  exact Nat.lt_of_le_of_lt (powerUnits_mono hk) hlargest

theorem natUnits_coefficient {c : Nat} (hc : c < UInt64.size) : natUnits c < unitsBound := by
  have hlargest : natUnits UInt64.size < unitsBound := by decide +kernel
  exact Nat.lt_of_le_of_lt (natUnits_mono (Nat.le_of_lt hc)) hlargest

/-- The units of a coefficient times a power of ten, as they are read. -/
def scaledUnits (c k : Nat) : Nat := roundUnits (natUnits c * powerUnits k) unitsOfOne

theorem scaledUnits_mono {c d k l : Nat} (hc : c ≤ d) (hk : k ≤ l) :
    scaledUnits c k ≤ scaledUnits d l :=
  roundUnits_mono _ (Nat.mul_le_mul (natUnits_mono hc) (powerUnits_mono hk))

/-- A coefficient up to which no product with a power of ten runs over.  Everything above it comes
at least halfway to the largest number. -/
def coefficientLimit (k : Nat) : Nat :=
  min (UInt64.size - 1) ((Nat.pow 2 1024 - 3 * Nat.pow 2 970) / Nat.pow 10 k)

theorem coefficientLimit_safe : ∀ i < 20,
    scaledUnits (coefficientLimit (289 + i)) (289 + i) < unitsBound ∧
      (coefficientLimit (289 + i) = UInt64.size - 1 ∨
        largestUnits ≤ natUnits ((coefficientLimit (289 + i) + 1) * Nat.pow 10 (289 + i))) := by
  decide +kernel

/-- What is below the largest number does not run over. -/
theorem scaledUnits_lt {c k : Nat} (hc : c < UInt64.size) (hk : k ≤ 308)
    (h : natUnits (c * Nat.pow 10 k) < largestUnits) : scaledUnits c k < unitsBound := by
  by_cases hsmall : k ≤ 288
  · have hbound : scaledUnits UInt64.size 288 < unitsBound := by decide +kernel
    exact Nat.lt_of_le_of_lt (scaledUnits_mono (Nat.le_of_lt hc) hsmall) hbound
  · obtain ⟨i, hi⟩ : ∃ i, k = 289 + i := ⟨k - 289, by omega⟩
    subst hi
    obtain ⟨hsafe, hlimit⟩ := coefficientLimit_safe i (by omega)
    have hle : c ≤ coefficientLimit (289 + i) := by
      cases hlimit with
      | inl heq => omega
      | inr hlarge =>
        refine Nat.le_of_not_lt fun hlt => ?_
        have hmono : natUnits ((coefficientLimit (289 + i) + 1) * Nat.pow 10 (289 + i)) ≤
            natUnits (c * Nat.pow 10 (289 + i)) := natUnits_mono (Nat.mul_le_mul_right _ hlt)
        omega
    exact Nat.lt_of_le_of_lt (scaledUnits_mono hle (Nat.le_refl _)) hsafe

/-- A power beyond `10 ^ 308` is beyond every number, so only zero stays below the largest one. -/
theorem coefficient_eq_zero {c k : Nat} (hk : 309 ≤ k)
    (h : natUnits (c * Nat.pow 10 k) < largestUnits) : c = 0 := by
  refine Nat.eq_zero_of_not_pos fun hpos => ?_
  have hlarge : largestUnits ≤ powerUnits 309 := by decide +kernel
  have hle : powerUnits k ≤ natUnits (c * Nat.pow 10 k) :=
    natUnits_mono (Nat.le_mul_of_pos_left _ hpos)
  exact absurd (Nat.le_trans (Nat.le_trans hlarge (powerUnits_mono hk)) hle) (Nat.not_le_of_lt h)

/-- A coefficient is scaled to a number if the decimal is below the largest number. -/
theorem isSome_scale? {c : Nat} {e : Int} (hc : c < UInt64.size)
    (h : (⟨c, e⟩ : Decimal).roundToUnits < largestUnits) : (scale? c e).isSome = true := by
  unfold scale?
  by_cases he : 0 ≤ e
  · have hunits : natUnits (c * Nat.pow 10 e.toNat) < largestUnits := by
      rwa [Decimal.roundToUnits, Decimal.ratioOf_of_nonneg he] at h
    rw [if_pos he]
    by_cases hk : e ≤ 308
    · have hfinite : (Binary64.ofNat c * Binary64.ofNat (Nat.pow 10 e.toNat)).isFinite = true := by
        rw [Binary64.mul_ofNat (natUnits_coefficient hc) (powerUnits_lt (by omega))]
        exact Binary64.isFinite_ofUnits (scaledUnits_lt hc (by omega) hunits)
      simp only [if_pos hk, hfinite, if_true, Option.isSome_some]
    · rw [if_neg hk, if_pos (coefficient_eq_zero (by omega) hunits)]
      rfl
  · rw [if_neg he]
    split_ifs <;> rfl

end Json

end Argumentation
