import Argumentation.Proofs.Number.Monotone

/-!
# Natural numbers

A natural number is rounded to the nearest number of the format.  One with at most 53
significant bits is a number of the format itself (`representable_whole`), so it is not rounded
(`ofNat_of_representable`), and a product of two such numbers is rounded only once
(`ofNat_mul_ofNat`).
-/

namespace Argumentation

/-! ## The bound of the format -/

/-- The power of two by which the largest numbers are apart, in units. -/
@[irreducible] def largestShift : Nat := 2045

theorem unitsBound_eq : unitsBound = Nat.pow 2 53 * Nat.pow 2 largestShift := by decide +kernel

theorem unitsOfOne_pos : 0 < unitsOfOne := two_pow_pos _

/-! ## Rounded numbers -/

/-- The units of the number nearest to a natural number. -/
def natUnits (n : Nat) : Nat := roundUnits (n * unitsOfOne) 1

theorem natUnits_mono {m n : Nat} (h : m ≤ n) : natUnits m ≤ natUnits n :=
  roundUnits_mono 1 (Nat.mul_le_mul_right _ h)

namespace Binary64

theorem isFinite_ofUnits {negative : Bool} {num den : Nat} (h : roundUnits num den < unitsBound) :
    (ofUnits negative num den).isFinite = true := by
  unfold ofUnits
  rw [dif_pos h]
  rfl

theorem representable_natUnits {n : Nat} (h : natUnits n < unitsBound) :
    Representable (natUnits n) :=
  ⟨h, exists_roundUnits_eq _ _⟩

theorem ofNat_eq_finite {n : Nat} (h : natUnits n < unitsBound) :
    ofNat n = .finite false (natUnits n) (representable_natUnits h) := by
  unfold ofNat ofRatio
  exact ofUnits_eq_finite _ rfl

theorem finite_mul_finite {s t : Bool} {m n : Nat} (hm : Representable m) (hn : Representable n) :
    finite s m hm * finite t n hn = ofUnits (s != t) (m * n) unitsOfOne := by
  change mul _ _ = _
  rw [mul]

theorem finite_div_finite {s t : Bool} {m n : Nat} (hm : Representable m) (hn : Representable n)
    (hpos : 0 < n) : finite s m hm / finite t n hn = ofUnits (s != t) (m * unitsOfOne) n := by
  change div _ _ = _
  rw [div, if_neg (Nat.ne_of_gt hpos)]

/-- A product of natural numbers is rounded three times. -/
theorem mul_ofNat {m n : Nat} (hm : natUnits m < unitsBound) (hn : natUnits n < unitsBound) :
    ofNat m * ofNat n = ofUnits false (natUnits m * natUnits n) unitsOfOne := by
  rw [ofNat_eq_finite hm, ofNat_eq_finite hn, finite_mul_finite, bne_self_eq_false]

end Binary64

/-! ## Numbers that are not rounded -/

theorem representable_whole {m s : Nat} (hm : m < Nat.pow 2 53) (hs : s ≤ 22) :
    Representable (m * Nat.pow 2 s * unitsOfOne) := by
  have hunits : m * Nat.pow 2 s * unitsOfOne = m * Nat.pow 2 (s + fractionBits) := by
    rw [unitsOfOne, two_pow_add, Nat.mul_assoc]
  have hbits : s + fractionBits ≤ largestShift := by
    unfold fractionBits largestShift
    omega
  rw [hunits]
  refine ⟨?_, m, _, hm, rfl⟩
  calc m * Nat.pow 2 (s + fractionBits)
      < Nat.pow 2 53 * Nat.pow 2 (s + fractionBits) :=
        Nat.mul_lt_mul_of_pos_right hm (two_pow_pos _)
    _ ≤ Nat.pow 2 53 * Nat.pow 2 largestShift :=
        Nat.mul_le_mul_left _ (Nat.pow_le_pow_right (by decide) hbits)
    _ = unitsBound := unitsBound_eq.symm

theorem representable_short {c : Nat} (hc : c < Nat.pow 2 53) :
    Representable (c * unitsOfOne) := by
  have hone : c * Nat.pow 2 0 = c := Nat.mul_one c
  have hwhole := representable_whole hc (Nat.zero_le 22)
  rwa [hone] at hwhole

/-- A natural number of the format is not rounded. -/
theorem natUnits_of_representable {n : Nat} (h : Representable (n * unitsOfOne)) :
    natUnits n = n * unitsOfOne := by
  have hround := roundUnits_of_representable h Nat.one_pos
  rwa [Nat.mul_one] at hround

namespace Binary64

theorem ofNat_of_representable {n : Nat} (h : Representable (n * unitsOfOne)) :
    ofNat n = .finite false (n * unitsOfOne) h := by
  unfold ofNat ofRatio
  exact ofUnits_eq_finite h (natUnits_of_representable h)

/-- A product of natural numbers of the format is rounded once. -/
theorem ofNat_mul_ofNat {m n units : Nat} (hm : Representable (m * unitsOfOne))
    (hn : Representable (n * unitsOfOne)) (h : Representable units)
    (hround : natUnits (m * n) = units) : ofNat m * ofNat n = .finite false units h := by
  rw [ofNat_of_representable hm, ofNat_of_representable hn, finite_mul_finite, bne_self_eq_false]
  refine ofUnits_eq_finite h ?_
  rw [← hround]
  refine roundUnits_congr unitsOfOne_pos Nat.one_pos ?_
  rw [Nat.mul_one, Nat.mul_mul_mul_comm, Nat.mul_assoc (m * n)]

end Binary64

end Argumentation
