import Argumentation.Proofs.Graph.Changes

/-!
# Numbers that are given out

A counter gives out one number after the other, and from time to time it is set behind the
greatest of the numbers that are in use.  `Numbering` keeps, beside the counter, the numbers that
it was last set behind and those that it has given out since.

The counter counts in 64 bits, and behind the last number it goes on with zero.  So the numbers
that it gives out are those behind the greatest one in use, as remainders (`Counts.run`), and they
rise above all that are in use, and one above the other, exactly as long as they do not pass the
last number (`run_rising_iff`).
-/

namespace Argumentation

/-- What is asked of a counter. -/
inductive Numbering.Call where
  /-- The next number. -/
  | generate
  /-- To go on behind the greatest of some numbers. -/
  | reseed (ids : List RelationId)

/-- A counter with its past. -/
structure Numbering where
  /-- The counter. -/
  counter : RelationCounter := {}
  /-- The numbers that the counter was last set behind. -/
  inUse : List RelationId := []
  /-- The numbers that were given out since. -/
  issued : List RelationId := []

namespace Numbering

open RelationCounter Argumentation.Graph

/-- Asks the counter. -/
def call (n : Numbering) : Call → Numbering
  | .generate =>
    { n with counter := n.counter.generate.2, issued := n.issued ++ [n.counter.generate.1] }
  | .reseed ids => ⟨.reseed ids, ids, []⟩

/-- Asks the counter again and again. -/
def run (n : Numbering) : List Call → Numbering
  | [] => n
  | c :: calls => (n.call c).run calls

/-- Whether every number that was given out is greater than all that are in use and than all that
were given out before. -/
structure Rising (n : Numbering) : Prop where
  /-- The numbers are greater than those in use. -/
  beyond : ∀ used ∈ n.inUse, ∀ id ∈ n.issued, used.number < id.number
  /-- The numbers increase. -/
  increasing : n.issued.Pairwise fun earlier later => earlier.number < later.number

variable {n : Numbering}

/-! ## Counting -/

/-- The number that comes behind the greatest one in use when some others have come before. -/
def following (n : Numbering) (i : Nat) : RelationId :=
  ⟨UInt64.ofNat ((greatest n.inUse).toNat + i + 1)⟩

/-- Whether the numbers that were given out are those behind the greatest one in use, and the
counter is at the next one. -/
structure Counts (n : Numbering) : Prop where
  /-- The numbers that were given out follow the greatest one in use. -/
  issued : n.issued = (List.range n.issued.length).map n.following
  /-- The next number follows these. -/
  next : n.counter.next = (n.following n.issued.length).number

theorem counts_new : Counts {} := ⟨rfl, rfl⟩

/-- Behind the last number comes zero again. -/
theorem following_succ (n : Numbering) (i : Nat) :
    (n.following (i + 1)).number = (n.following i).number + 1 := UInt64.ofNat_add _ 1

theorem Counts.call (counts : n.Counts) (c : Call) : (n.call c).Counts := by
  cases c with
  | generate =>
    constructor
    · have hnext : n.counter.generate.1 = n.following n.issued.length :=
        congrArg RelationId.mk counts.next
      show n.issued ++ [n.counter.generate.1] =
        (List.range (n.issued ++ [n.counter.generate.1]).length).map n.following
      rw [List.length_append, List.length_singleton, List.range_succ, List.map_append,
        ← counts.issued, hnext]
      rfl
    · show n.counter.next + 1 = (n.following (n.issued ++ [n.counter.generate.1]).length).number
      rw [counts.next, List.length_append, List.length_singleton, following_succ]
  | reseed ids =>
    constructor
    · rfl
    · show greatest ids + 1 = UInt64.ofNat ((greatest ids).toNat + 0 + 1)
      rw [UInt64.ofNat_add, Nat.add_zero, UInt64.ofNat_toNat]
      rfl

theorem Counts.run (counts : n.Counts) (calls : List Call) : (n.run calls).Counts := by
  induction calls generalizing n with
  | nil => exact counts
  | cons c calls ih => exact ih (counts.call c)

theorem toNat_following (n : Numbering) (i : Nat) :
    (n.following i).number.toNat = ((greatest n.inUse).toNat + i + 1) % UInt64.size :=
  UInt64.toNat_ofNat'

/-- As long as the last number is not passed, nothing is lost by counting in 64 bits. -/
theorem toNat_following_of_le {i : Nat} (h : (greatest n.inUse).toNat + i + 1 ≤ lastNumber) :
    (n.following i).number.toNat = (greatest n.inUse).toNat + i + 1 := by
  rw [toNat_following]
  exact Nat.mod_eq_of_lt (Nat.lt_succ_of_le h)

/-! ## Rising numbers -/

theorem Counts.getElem_issued (counts : n.Counts) {i : Nat} (h : i < n.issued.length) :
    n.issued[i] = n.following i := by
  have heq : n.issued[i]? = ((List.range n.issued.length).map n.following)[i]? :=
    congrArg (·[i]?) counts.issued
  rw [List.getElem?_map, List.getElem?_range h, List.getElem?_eq_getElem h] at heq
  exact Option.some.inj heq

/-- Numbers rise as long as they do not pass the last one. -/
theorem Counts.rising (counts : n.Counts)
    (room : (greatest n.inUse).toNat + n.issued.length ≤ lastNumber) : n.Rising := by
  have hnumber {i : Nat} (hi : i < n.issued.length) :
      (n.issued[i]).number.toNat = (greatest n.inUse).toNat + i + 1 := by
    rw [counts.getElem_issued hi]
    exact toNat_following_of_le (by omega)
  constructor
  · intro used hused id hid
    obtain ⟨i, hi, rfl⟩ := List.mem_iff_getElem.1 hid
    have hle := UInt64.le_iff_toNat_le.1 (le_greatest hused)
    rw [UInt64.lt_iff_toNat_lt, hnumber hi]
    omega
  · rw [List.pairwise_iff_getElem]
    intro i j hi hj hij
    rw [UInt64.lt_iff_toNat_lt, hnumber hi, hnumber hj]
    omega

/-- Behind the last number comes zero, which is greater than no number. -/
theorem Counts.le_of_rising (counts : n.Counts) (rising : n.Rising) :
    (greatest n.inUse).toNat + n.issued.length ≤ lastNumber := by
  by_contra hpassed
  have hle : (greatest n.inUse).toNat ≤ lastNumber := Nat.le_of_lt_succ (greatest n.inUse).toNat_lt
  have hturn : lastNumber - (greatest n.inUse).toNat < n.issued.length := by omega
  have hzero : (n.issued[lastNumber - (greatest n.inUse).toNat]).number = 0 := by
    rw [counts.getElem_issued hturn, ← UInt64.toNat_inj, toNat_following,
      Nat.add_sub_cancel' hle]
    rfl
  rcases Nat.eq_zero_or_pos (lastNumber - (greatest n.inUse).toNat) with hfirst | hlater
  · -- The last number is in use.
    rcases greatest_eq_zero_or_mem n.inUse with hnone | ⟨used, hused, -⟩
    · rw [hnone] at hfirst
      cases hfirst
    · have hlt := rising.beyond used hused _ (List.getElem_mem hturn)
      rw [hzero] at hlt
      exact UInt64.not_lt_zero hlt
  · -- The last number was given out.
    have hlt := List.pairwise_iff_getElem.1 rising.increasing
      (lastNumber - (greatest n.inUse).toNat - 1) _ (by omega) hturn (by omega)
    rw [hzero] at hlt
    exact UInt64.not_lt_zero hlt

/-- However often a counter is asked and set anew, the numbers that it gives out are greater than
all that are in use and than all that it gave out before, as long as they do not pass the last
number that 64 bits can hold, and no longer.  The next number is the one behind these, with zero
behind the last one. -/
theorem run_rising_iff (calls : List Call) :
    let n := run {} calls
    n.counter.generate.1.number.toNat =
        ((greatest n.inUse).toNat + n.issued.length + 1) % UInt64.size ∧
      (n.Rising ↔ (greatest n.inUse).toNat + n.issued.length ≤ lastNumber) := by
  intro n
  have counts : n.Counts := counts_new.run calls
  refine ⟨?_, counts.le_of_rising, counts.rising⟩
  rw [← toNat_following, ← counts.next]
  rfl

/-- Behind the last number the counter gives out zero. -/
theorem run_not_rising :
    let n := run {} [.reseed [⟨18446744073709551615⟩], .generate]
    n.issued = [⟨0⟩] ∧ ¬ n.Rising := by
  refine ⟨rfl, fun rising => ?_⟩
  have hlt := rising.beyond ⟨18446744073709551615⟩ (by simp [run, call]) ⟨0⟩ (by decide)
  revert hlt
  decide

end Numbering

end Argumentation
