import Argumentation.Argument
import Argumentation.Proofs.Data.Assoc
import Argumentation.Proofs.Number.Natural

/-!
# The default grid

The slots of the grid are counted row by row.  Coordinates are products of floating-point
numbers, but up to the slot `2 ^ 51` none of them is rounded, so two slots are the same place
only if they are the same slot (`apart_gridPosition_iff`).

Who gets which slot is a matter of counting.  New arguments get the slots from the number of
those on that were there before, and everyone who stays keeps its slot (`assign`).  As long as
nobody leaves, this fills the grid row by row (`compact_assignAll`).  But once somebody has left,
the arguments that stay may stand on slots beyond their number, and these are given a second time
to those who come (`nodup_assign_iff`).
-/

namespace Argumentation

/-! ## Places -/

/-- Whether two places differ as pairs of numbers. -/
def Position.Apart (p q : Position) : Prop := p.x.numEq q.x = false ∨ p.y.numEq q.y = false

instance : DecidableRel Position.Apart := fun p q =>
  inferInstanceAs (Decidable (p.x.numEq q.x = false ∨ p.y.numEq q.y = false))

/-- A coordinate of the grid is not rounded, since `120` is `15 * 2 ^ 3`. -/
theorem ofNat_mul_gridStep {n : Nat} (h : n * 15 < Nat.pow 2 53) :
    Binary64.ofNat n * gridStep =
      .finite false (n * 15 * Nat.pow 2 3 * unitsOfOne) (representable_whole h (by decide)) := by
  have hn : n < Nat.pow 2 53 := Nat.lt_of_le_of_lt (Nat.le_mul_of_pos_right n (by decide)) h
  have hstep : Representable (120 * unitsOfOne) := representable_short (by decide)
  refine Binary64.ofNat_mul_ofNat (representable_short hn) hstep _ ?_
  have hproduct : n * 120 = n * 15 * Nat.pow 2 3 := by rw [Nat.mul_assoc]
  rw [hproduct]
  exact natUnits_of_representable (representable_whole h (by decide))

theorem numEq_mul_gridStep_iff {m n : Nat} (hm : m * 15 < Nat.pow 2 53)
    (hn : n * 15 < Nat.pow 2 53) :
    (Binary64.ofNat m * gridStep).numEq (Binary64.ofNat n * gridStep) = true ↔ m = n := by
  rw [ofNat_mul_gridStep hm, ofNat_mul_gridStep hn]
  simp only [Binary64.numEq, Binary64.signed, Bool.false_eq_true, if_false, beq_iff_eq,
    Int.natCast_inj]
  constructor
  · intro heq
    have hunits := Nat.eq_of_mul_eq_mul_right unitsOfOne_pos heq
    have hwhole := Nat.eq_of_mul_eq_mul_right (two_pow_pos 3) hunits
    exact Nat.eq_of_mul_eq_mul_right (by decide) hwhole
  · rintro rfl
    rfl

/-- The places of two slots differ if and only if the slots do. -/
theorem apart_gridPosition_iff {i j : Nat} (hi : i < Nat.pow 2 51) (hj : j < Nat.pow 2 51) :
    (gridPosition i).Apart (gridPosition j) ↔ i ≠ j := by
  have hsmall {n : Nat} (h : n < Nat.pow 2 51) :
      n % gridColumns * 15 < Nat.pow 2 53 ∧ n / gridColumns * 15 < Nat.pow 2 53 := by
    change n < 2 ^ 51 at h
    change n % 5 * 15 < 2 ^ 53 ∧ n / 5 * 15 < 2 ^ 53
    omega
  have hx := numEq_mul_gridStep_iff (hsmall hi).1 (hsmall hj).1
  have hy := numEq_mul_gridStep_iff (hsmall hi).2 (hsmall hj).2
  rw [Position.Apart, gridPosition, gridPosition, ← Bool.not_eq_true, ← Bool.not_eq_true, hx, hy]
  unfold gridColumns
  omega

/-! ## Slots -/

namespace Grid

variable {slots : Assoc String Nat} {ids : List String} {rows : List (List String)} {n : Nat}

/-- The arguments that get a slot: those that have none yet. -/
def fresh (slots : Assoc String Nat) (ids : List String) : List String :=
  ids.filter (· ∉ slots.keys)

/-- The slots when some arguments are there.  All others leave, and the new ones get the slots
from the number of those on that were there before. -/
def assign (slots : Assoc String Nat) (ids : List String) : Assoc String Nat :=
  slots.filter (·.1 ∈ ids) ++ (fresh slots ids).zipIdx slots.length

/-- The slots after a history of arguments that are there. -/
def assignAll (rows : List (List String)) : Assoc String Nat := rows.foldl assign []

theorem keys_assign (slots : Assoc String Nat) (ids : List String) :
    (assign slots ids).keys = slots.keys.filter (· ∈ ids) ++ fresh slots ids := by
  rw [assign, Assoc.keys_append, Assoc.keys, Assoc.keys, Assoc.keys, List.zipIdx_map_fst,
    List.filter_map]
  rfl

theorem mem_keys_assign {id : String} : id ∈ (assign slots ids).keys ↔ id ∈ ids := by
  rw [keys_assign, fresh, List.mem_append, List.mem_filter, List.mem_filter]
  simp only [decide_eq_true_eq]
  tauto

theorem nodup_keys_assign (hslots : slots.keys.Nodup) (hids : ids.Nodup) :
    (assign slots ids).keys.Nodup := by
  rw [keys_assign]
  refine List.nodup_append.2 ⟨hslots.filter _, hids.filter _, ?_⟩
  rintro id hstays _ hfresh rfl
  exact of_decide_eq_true (List.mem_filter.1 hfresh).2 (List.mem_of_mem_filter hstays)

theorem length_assign (hslots : slots.keys.Nodup) (hids : ids.Nodup) :
    (assign slots ids).length = ids.length := by
  have hperm : (assign slots ids).keys.Perm ids :=
    (List.perm_ext_iff_of_nodup (nodup_keys_assign hslots hids) hids).2 fun _ => mem_keys_assign
  rw [← hperm.length_eq, Assoc.keys, List.length_map]

/-- If nobody comes or leaves, the slots stay as they are. -/
theorem assign_of_mem_iff (h : ∀ id, id ∈ slots.keys ↔ id ∈ ids) : assign slots ids = slots := by
  have hstay : slots.filter (·.1 ∈ ids) = slots :=
    List.filter_eq_self.2 fun e he => decide_eq_true ((h e.1).1 (List.mem_map_of_mem he))
  have hfresh : fresh slots ids = [] :=
    List.filter_eq_nil_iff.2 fun id hid => by simp [(h id).2 hid]
  rw [assign, hstay, hfresh, List.zipIdx_nil, List.append_nil]

theorem map_snd_assign (slots : Assoc String Nat) (ids : List String) :
    (assign slots ids).map (·.2) = (slots.filter (·.1 ∈ ids)).map (·.2) ++
      List.range' slots.length (fresh slots ids).length := by
  rw [assign, List.map_append, List.zipIdx_map_snd]

/-- A slot is given a second time if and only if someone who stays stands on one of the slots
that the new arguments get. -/
theorem nodup_assign_iff (h : (slots.map (·.2)).Nodup) (ids : List String) :
    ((assign slots ids).map (·.2)).Nodup ↔ ∀ e ∈ slots, e.1 ∈ ids →
      e.2 < slots.length ∨ slots.length + (fresh slots ids).length ≤ e.2 := by
  have hstay : ((slots.filter (·.1 ∈ ids)).map (·.2)).Nodup := h.sublist (List.filter_sublist.map _)
  rw [map_snd_assign, List.nodup_append]
  constructor
  · rintro ⟨-, -, hne⟩ e he hid
    by_contra hbetween
    refine hne e.2 (List.mem_map_of_mem (List.mem_filter.2 ⟨he, decide_eq_true hid⟩)) e.2 ?_ rfl
    rw [List.mem_range'_1]
    omega
  · intro hslot
    refine ⟨hstay, List.nodup_range' 1, ?_⟩
    intro i hi j hj heq
    obtain ⟨e, he, rfl⟩ := List.mem_map.1 hi
    obtain ⟨hmem, hid⟩ := List.mem_filter.1 he
    have hslot := hslot e hmem (of_decide_eq_true hid)
    rw [List.mem_range'_1] at hj
    omega

/-! ### Bounds -/

/-- Slots of no more than a number of arguments. -/
structure Fits (n : Nat) (slots : Assoc String Nat) : Prop where
  /-- Nobody has two slots. -/
  nodup : slots.keys.Nodup
  /-- There are no more arguments. -/
  length_le : slots.length ≤ n
  /-- No slot is beyond twice the number. -/
  slot_lt : ∀ e ∈ slots, e.2 < 2 * n

theorem Fits.assign (fits : Fits n slots) (hids : ids.Nodup) (hle : ids.length ≤ n) :
    Fits n (assign slots ids) where
  nodup := nodup_keys_assign fits.nodup hids
  length_le := by rwa [length_assign fits.nodup hids]
  slot_lt e he := by
    cases List.mem_append.1 he with
    | inl hstays => exact fits.slot_lt e (List.mem_of_mem_filter hstays)
    | inr hnew =>
      obtain ⟨-, hlt, -⟩ := List.mem_zipIdx hnew
      have hfresh : (fresh slots ids).length ≤ ids.length := List.length_filter_le _ _
      have hslots := fits.length_le
      omega

theorem fits_assignAll (hrows : ∀ ids ∈ rows, ids.Nodup ∧ ids.length ≤ n) :
    Fits n (assignAll rows) := by
  have hempty : Fits n [] := ⟨List.nodup_nil, Nat.zero_le n, nofun⟩
  exact List.foldlRecOn rows Grid.assign hempty fun _ fits ids hids =>
    fits.assign (hrows ids hids).1 (hrows ids hids).2

/-! ### Histories in which nobody leaves -/

/-- Slots without gaps. -/
structure Compact (slots : Assoc String Nat) : Prop where
  /-- No slot is given twice. -/
  nodup : (slots.map (·.2)).Nodup
  /-- No slot is beyond the number of arguments. -/
  slot_lt : ∀ e ∈ slots, e.2 < slots.length

theorem Compact.assign (compact : Compact slots) (hsub : slots.keys ⊆ ids) :
    Compact (assign slots ids) := by
  have hstay : slots.filter (·.1 ∈ ids) = slots :=
    List.filter_eq_self.2 fun e he => decide_eq_true (hsub (List.mem_map_of_mem he))
  constructor
  · exact (nodup_assign_iff compact.nodup ids).2 fun e he _ => Or.inl (compact.slot_lt e he)
  · intro e he
    rw [Grid.assign, hstay] at he ⊢
    rw [List.length_append, List.length_zipIdx]
    cases List.mem_append.1 he with
    | inl hold => exact Nat.lt_add_right _ (compact.slot_lt e hold)
    | inr hnew => exact (List.mem_zipIdx hnew).2.1

theorem compact_foldl (compact : Compact slots) (hsub : ∀ ids ∈ rows.head?, slots.keys ⊆ ids)
    (grows : rows.IsChain (· ⊆ ·)) : Compact (rows.foldl assign slots) := by
  induction rows generalizing slots with
  | nil => exact compact
  | cons ids rows ih =>
    refine ih (compact.assign (hsub ids rfl)) ?_ grows.of_cons
    intro ids' hids' id hid
    cases rows with
    | nil => cases hids'
    | cons row rows =>
      cases hids'
      exact (List.isChain_cons_cons.1 grows).1 (mem_keys_assign.1 hid)

/-- If nobody ever leaves, no slot is given twice. -/
theorem compact_assignAll (grows : rows.IsChain (· ⊆ ·)) : Compact (assignAll rows) :=
  compact_foldl ⟨List.nodup_nil, nofun⟩ (fun _ _ => List.nil_subset _) grows

end Grid

end Argumentation
