/-!
# Binary floating-point numbers of 64 bits

Weights, strengths and positions are binary numbers with 53 significant bits.
Every finite one is a whole multiple of the smallest positive one, `2 ^ -1074`,
so a finite number is kept as its sign and that multiple, its *units*.  Not every
multiple is a number of the format, and `Representable` says which are.

Arithmetic is exact on units and rounds once, at the end, to the nearest number
of the format, a half going to the even neighbour.  Beyond the largest finite
number it goes to infinity.

`exists_roundUnits_eq` says that rounding keeps at most 53 bits and
`roundUnits_of_representable` that it moves no number of the format.
-/

namespace Argumentation

/-- The binary digits behind the point of the smallest positive number. -/
@[irreducible] def fractionBits : Nat := 1074

/-- The number of units in one. -/
def unitsOfOne : Nat := Nat.pow 2 fractionBits

/-- The first multiple of a unit that is beyond the format. -/
def unitsBound : Nat := Nat.pow 2 2098

/-- The multiples that have at most 53 significant bits and are not too large. -/
def Representable (units : Nat) : Prop :=
  units < unitsBound ∧ ∃ m s, m < Nat.pow 2 53 ∧ units = m * Nat.pow 2 s

/-- A binary floating-point number of 64 bits. -/
inductive Binary64 where
  /-- No number. -/
  | nan
  /-- An infinity. -/
  | infinite (negative : Bool)
  /-- A finite number: a sign and a multiple of the smallest positive number. -/
  | finite (negative : Bool) (units : Nat) (representable : Representable units)
  deriving DecidableEq

/-! ## Rounding -/

/-- The whole number nearest to `num / den`, a half going to the even neighbour. -/
def divNearestEven (num den : Nat) : Nat :=
  if 2 * (num % den) < den then num / den
  else if den < 2 * (num % den) then num / den + 1
  else if num / den % 2 = 0 then num / den
  else num / den + 1

/-- How many bits a multiple of a unit has beyond the 53 that are kept. -/
def excessBits (n : Nat) : Nat := n.log2 - 52

/-- The multiple with at most 53 significant bits that is nearest to `num / den`
units. -/
def roundUnits (num den : Nat) : Nat :=
  divNearestEven num (den * Nat.pow 2 (excessBits (num / den))) *
    Nat.pow 2 (excessBits (num / den))

theorem divNearestEven_le (num den : Nat) : divNearestEven num den ≤ num / den + 1 := by
  unfold divNearestEven
  split
  · omega
  · split
    · omega
    · split <;> omega

theorem two_pow_pos (n : Nat) : 0 < Nat.pow 2 n := Nat.two_pow_pos n

theorem two_pow_add (m n : Nat) : Nat.pow 2 (m + n) = Nat.pow 2 m * Nat.pow 2 n :=
  Nat.pow_add 2 m n

/-- The kept part of a multiple has at most 53 bits. -/
theorem div_two_pow_excessBits_lt (n : Nat) :
    n / Nat.pow 2 (excessBits n) < Nat.pow 2 53 := by
  have h : n < Nat.pow 2 (n.log2 + 1) := Nat.lt_log2_self
  have hle : n.log2 + 1 ≤ 53 + excessBits n := by unfold excessBits; omega
  rw [Nat.div_lt_iff_lt_mul (two_pow_pos _), ← two_pow_add]
  exact Nat.lt_of_lt_of_le h (Nat.pow_le_pow_right (by decide) hle)

/-- Rounding keeps at most 53 significant bits. -/
theorem exists_roundUnits_eq (num den : Nat) :
    ∃ m s, m < Nat.pow 2 53 ∧ roundUnits num den = m * Nat.pow 2 s := by
  have h := divNearestEven_le num (den * Nat.pow 2 (excessBits (num / den)))
  have hlt := div_two_pow_excessBits_lt (num / den)
  rw [← Nat.div_div_eq_div_mul] at h
  unfold roundUnits
  generalize divNearestEven num (den * Nat.pow 2 (excessBits (num / den))) = m at h ⊢
  generalize excessBits (num / den) = s at h hlt ⊢
  by_cases hm : m < Nat.pow 2 53
  · exact ⟨m, s, hm, rfl⟩
  · refine ⟨Nat.pow 2 52, s + 1, by decide, ?_⟩
    have h53 : Nat.pow 2 53 = Nat.pow 2 52 * 2 := rfl
    have : m = Nat.pow 2 52 * 2 := by omega
    rw [this, Nat.mul_assoc, Nat.mul_comm 2]
    rfl

/-- A multiple with at most 53 significant bits is a multiple of `2 ^ excessBits`. -/
theorem two_pow_excessBits_dvd {m s : Nat} (hm : m < Nat.pow 2 53) :
    Nat.pow 2 (excessBits (m * Nat.pow 2 s)) ∣ m * Nat.pow 2 s := by
  by_cases h0 : m * Nat.pow 2 s = 0
  · rw [h0]; exact Nat.dvd_zero _
  · have hlt : m * Nat.pow 2 s < Nat.pow 2 (53 + s) := by
      rw [two_pow_add]; exact Nat.mul_lt_mul_of_pos_right hm (two_pow_pos s)
    have hlog : (m * Nat.pow 2 s).log2 < 53 + s := (Nat.log2_lt h0).2 hlt
    have hle : excessBits (m * Nat.pow 2 s) ≤ s := by unfold excessBits; omega
    exact Nat.dvd_trans (Nat.pow_dvd_pow 2 hle) (Nat.dvd_mul_left _ _)

/-- A whole quotient is not rounded. -/
theorem divNearestEven_mul (n : Nat) {den : Nat} (h : 0 < den) :
    divNearestEven (n * den) den = n := by
  unfold divNearestEven
  rw [Nat.mul_mod_left, Nat.mul_div_cancel n h]
  simp [h]

/-- Rounding moves no number of the format. -/
theorem roundUnits_of_representable {n den : Nat} (h : Representable n) (hd : 0 < den) :
    roundUnits (n * den) den = n := by
  obtain ⟨-, m, s, hm, rfl⟩ := h
  obtain ⟨k, hk⟩ := two_pow_excessBits_dvd (s := s) hm
  unfold roundUnits
  rw [Nat.mul_div_cancel _ hd]
  generalize hp : Nat.pow 2 (excessBits (m * Nat.pow 2 s)) = p at hk ⊢
  have hpos : 0 < p := hp ▸ two_pow_pos _
  rw [hk, Nat.mul_right_comm, Nat.mul_comm, Nat.mul_comm p den,
    Nat.mul_comm (den * p) k, divNearestEven_mul k (Nat.mul_pos hd hpos)]

namespace Binary64

/-- The number nearest to `num / den` units. -/
def ofUnits (negative : Bool) (num den : Nat) : Binary64 :=
  if h : roundUnits num den < unitsBound then
    .finite negative (roundUnits num den) ⟨h, exists_roundUnits_eq num den⟩
  else .infinite negative

/-- The number nearest to `num / den`. -/
def ofRatio (negative : Bool) (num den : Nat) : Binary64 :=
  ofUnits negative (num * unitsOfOne) den

/-- The number nearest to a natural number. -/
def ofNat (n : Nat) : Binary64 := ofRatio false n 1

/-- The number nearest to an integer. -/
def ofInt (n : Int) : Binary64 := ofRatio (n < 0) n.natAbs 1

instance (n : Nat) : OfNat Binary64 n := ⟨ofNat n⟩

instance : Inhabited Binary64 := ⟨0⟩

/-! ## Comparison -/

/-- A finite number with a sign, in units. -/
def signed (negative : Bool) (units : Nat) : Int := if negative then -units else units

/-- Whether the value is no number. -/
def isNan : Binary64 → Bool
  | .nan => true
  | _ => false

/-- Whether the value is a number and no infinity. -/
def isFinite : Binary64 → Bool
  | .finite .. => true
  | _ => false

/-- Equality of numbers: the two zeros are equal, and what is no number equals
nothing. -/
def numEq : Binary64 → Binary64 → Bool
  | .infinite s, .infinite t => s == t
  | .finite s m _, .finite t n _ => signed s m == signed t n
  | _, _ => false

/-- The order of numbers.  What is no number stands in no relation. -/
def le : Binary64 → Binary64 → Bool
  | .nan, _ => false
  | _, .nan => false
  | .infinite true, _ => true
  | _, .infinite false => true
  | .infinite false, _ => false
  | _, .infinite true => false
  | .finite s m _, .finite t n _ => signed s m ≤ signed t n

/-- Equality of numbers that may be absent. -/
def optionEq : Option Binary64 → Option Binary64 → Bool
  | none, none => true
  | some x, some y => x.numEq y
  | _, _ => false

/-! ## Arithmetic -/

/-- The number with the other sign. -/
def neg : Binary64 → Binary64
  | .nan => .nan
  | .infinite s => .infinite !s
  | .finite s n h => .finite (!s) n h

/-- The sum.  A sum of zero is negative only if both terms are. -/
def add : Binary64 → Binary64 → Binary64
  | .nan, _ => .nan
  | _, .nan => .nan
  | .infinite s, .infinite t => if s = t then .infinite s else .nan
  | .infinite s, _ => .infinite s
  | _, .infinite t => .infinite t
  | .finite s m _, .finite t n _ =>
    let sum := signed s m + signed t n
    ofUnits (sum < 0 || (sum == 0 && s && t)) sum.natAbs 1

/-- The product. -/
def mul : Binary64 → Binary64 → Binary64
  | .nan, _ => .nan
  | _, .nan => .nan
  | .infinite s, .infinite t => .infinite (s != t)
  | .infinite s, .finite t n _ => if n = 0 then .nan else .infinite (s != t)
  | .finite s m _, .infinite t => if m = 0 then .nan else .infinite (s != t)
  | .finite s m _, .finite t n _ => ofUnits (s != t) (m * n) unitsOfOne

/-- The quotient. -/
def div : Binary64 → Binary64 → Binary64
  | .nan, _ => .nan
  | _, .nan => .nan
  | .infinite _, .infinite _ => .nan
  | .infinite s, .finite t _ _ => .infinite (s != t)
  | .finite s _ _, .infinite t => ofUnits (s != t) 0 1
  | .finite s m _, .finite t n _ =>
    if n = 0 then if m = 0 then .nan else .infinite (s != t)
    else ofUnits (s != t) (m * unitsOfOne) n

instance : Add Binary64 := ⟨add⟩
instance : Mul Binary64 := ⟨mul⟩
instance : Div Binary64 := ⟨div⟩
instance : Neg Binary64 := ⟨neg⟩

example : numEq 0 (-0) = true ∧ (0 : Binary64) ≠ -0 := by decide +kernel
example : le (1 / 2) 1 = true ∧ le 1 (1 / 2) = false := by decide +kernel
example : (1 / 2 : Binary64) * 120 = 60 := by decide +kernel
example : ofNat (Nat.pow 2 53 + 1) = ofNat (Nat.pow 2 53) := by decide +kernel

end Binary64

end Argumentation
