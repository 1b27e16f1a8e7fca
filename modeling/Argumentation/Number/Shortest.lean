import Argumentation.Number.Decimal

/-!
# The shortest decimal of a number

A finite number is written with the fewest digits that read back to it.  For one
digit, two, and so on up to seventeen, the two decimals of that many digits around
the number are tried by reading them back.  The first count of digits with a hit
wins, of two hits the nearer one, and `Tie` says which of two equally near ones.

Should no count of digits do, the exact decimal expansion stands in, so
`roundToUnits_shortest`, which says that the decimal reads back, needs no
argument about the count.
-/

namespace Argumentation

/-- Which of two equally near decimals is taken. -/
inductive Tie where
  /-- The greater one. -/
  | up
  /-- The one with the even last digit. -/
  | even
  deriving DecidableEq

namespace Decimal

/-- The number of units nearest to a decimal. -/
def roundToUnits (d : Decimal) : Nat :=
  roundUnits ((Binary64.ratioOf d).1 * unitsOfOne) (Binary64.ratioOf d).2

/-- A power of ten that lifts the smallest positive number above `10 ^ 17`. -/
@[irreducible] def lift : Nat := 342

/-- The first of two decimals that reads back to a number. -/
def firstReading (units : Nat) (d e : Decimal) : Option Decimal :=
  if d.roundToUnits = units then some d
  else if e.roundToUnits = units then some e
  else none

/-- The nearer of the two decimals around a number, if it reads back, and else the
other one.  `num / den` is the number on the grid of the two decimals. -/
def pick (tie : Tie) (units num den : Nat) (exponent : Int) : Option Decimal :=
  let low : Decimal := ⟨num / den, exponent⟩
  let high : Decimal := ⟨num / den + 1, exponent⟩
  let upper := den < 2 * (num % den) ∨
    (den = 2 * (num % den) ∧ (tie = .up ∨ num / den % 2 = 1))
  if upper then firstReading units high low else firstReading units low high

/-- The decimal with a given count of digits that reads back to a number. -/
def withDigits? (tie : Tie) (units count : Nat) : Option Decimal :=
  let num := units * Nat.pow 10 lift
  let excess := width (num / unitsOfOne) - count
  pick tie units num (unitsOfOne * Nat.pow 10 excess) ((excess : Int) - lift)

/-- The exact decimal expansion. -/
def exact (units : Nat) : Decimal := ⟨units * Nat.pow 5 fractionBits, -fractionBits⟩

/-- The decimal with the fewest digits that reads back to a number. -/
def shortest (tie : Tie) (units : Nat) : Decimal :=
  ((List.range 17).findSome? fun n => withDigits? tie units (n + 1)).getD (exact units)

theorem roundToUnits_of_firstReading {units : Nat} {d e f : Decimal}
    (h : firstReading units d e = some f) : f.roundToUnits = units := by
  unfold firstReading at h
  split at h
  · next hd => exact Option.some.inj h ▸ hd
  · split at h
    · next he => exact Option.some.inj h ▸ he
    · exact nomatch h

theorem roundToUnits_of_pick {tie : Tie} {units num den : Nat} {exponent : Int} {d : Decimal}
    (h : pick tie units num den exponent = some d) : d.roundToUnits = units := by
  unfold pick at h
  dsimp only at h
  split at h <;> exact roundToUnits_of_firstReading h

theorem ratioOf_exact (units : Nat) :
    Binary64.ratioOf (exact units) = (units * Nat.pow 5 fractionBits, Nat.pow 10 fractionBits) := by
  have h : ¬(0 ≤ -(fractionBits : Int)) := by unfold fractionBits; decide
  unfold Binary64.ratioOf exact
  dsimp only
  rw [if_neg h, Int.neg_neg, Int.toNat_natCast]

theorem roundToUnits_exact {units : Nat} (h : Representable units) :
    (exact units).roundToUnits = units := by
  unfold roundToUnits unitsOfOne
  rw [ratioOf_exact]
  dsimp only
  simp only [Nat.pow_eq]
  rw [Nat.mul_assoc, ← Nat.mul_pow]
  exact roundUnits_of_representable h (Nat.pow_pos (by decide))

/-- The shortest decimal of a number reads back to it. -/
theorem roundToUnits_shortest (tie : Tie) {units : Nat} (h : Representable units) :
    (shortest tie units).roundToUnits = units := by
  unfold shortest
  cases hf : (List.range 17).findSome? fun n => withDigits? tie units (n + 1) with
  | none => exact roundToUnits_exact h
  | some d =>
    obtain ⟨n, -, hn⟩ := List.exists_of_findSome?_eq_some hf
    exact roundToUnits_of_pick hn

example : shortest .up (Nat.pow 2 1073) = ⟨5, -1⟩ := by decide +kernel
example : shortest .even 1 = ⟨5, -324⟩ := by decide +kernel

end Decimal

end Argumentation
