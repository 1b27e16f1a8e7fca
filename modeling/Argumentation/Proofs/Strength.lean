import Argumentation.Proofs.Number.RoundTrip
import Argumentation.Proofs.Text.Lowercase
import Argumentation.Proofs.Text.Marks
import Argumentation.Strength

/-!
# Lines of strengths

A line of the form `id:number` gives an argument a strength (`Gives`).  The number has digits, of
which some may stand in front of a point, and is at most one.  `parseLine?_eq_some_iff` says that a
line is read exactly if it has this form, and as what it says.

A strength belongs to the first bucket whose bound is not below it (`isFirstBound_bucket`), so a
greater strength never belongs to a lower bucket (`bucket_mono`).
-/

namespace Argumentation

/-! ## The order of numbers -/

namespace Binary64

theorem le_nan (x : Binary64) : x.le .nan = false := by
  cases x with
  | nan => rfl
  | infinite s => cases s <;> rfl
  | finite s m hm => rfl

/-- Nothing but negative infinity is below it. -/
theorem eq_of_le_infinite {x : Binary64} (h : x.le (.infinite true) = true) :
    x = .infinite true := by
  cases x with
  | nan => cases h
  | infinite s =>
    cases s with
    | false => cases h
    | true => rfl
  | finite s m hm => cases h

/-- Nothing but positive infinity is above it. -/
theorem eq_of_infinite_le {x : Binary64} (h : le (.infinite false) x = true) :
    x = .infinite false := by
  cases x with
  | nan => cases h
  | infinite s =>
    cases s with
    | false => rfl
    | true => cases h
  | finite s m hm => cases h

theorem finite_le_finite_iff {s t : Bool} {m n : Nat} {hm : Representable m}
    {hn : Representable n} :
    le (.finite s m hm) (.finite t n hn) = true ↔ signed s m ≤ signed t n :=
  decide_eq_true_iff

theorem le_trans {x y z : Binary64} (hxy : x.le y = true) (hyz : y.le z = true) :
    x.le z = true := by
  cases y with
  | nan => exact absurd hxy (by rw [le_nan]; exact Bool.false_ne_true)
  | infinite t =>
    cases t with
    | false =>
      rw [eq_of_infinite_le hyz]
      exact hxy
    | true =>
      rw [eq_of_le_infinite hxy]
      exact hyz
  | finite t n hn =>
    cases x with
    | nan => cases hxy
    | infinite s =>
      cases s with
      | false => cases hxy
      | true =>
        -- Negative infinity is below every number.
        cases z with
        | nan => cases hyz
        | infinite u => rfl
        | finite u k hk => rfl
    | finite s m hm =>
      cases z with
      | nan => cases hyz
      | infinite u =>
        cases u with
        | false => rfl
        | true => cases hyz
      | finite u k hk =>
        rw [finite_le_finite_iff] at hxy hyz ⊢
        exact Int.le_trans hxy hyz

theorem exists_zero_eq_finite : ∃ h, (0 : Binary64) = .finite false 0 h := by
  have hpos : 0 < unitsBound := by decide +kernel
  have hrepresentable : Representable 0 :=
    ⟨hpos, 0, 0, two_pow_pos 53, (Nat.zero_mul _).symm⟩
  have hround : roundUnits (0 * unitsOfOne) 1 = 0 := by
    rw [Nat.zero_mul]
    exact roundUnits_eq_zero (by decide)
  have hzero : (0 : Binary64) = ofNat 0 := rfl
  refine ⟨hrepresentable, ?_⟩
  rw [hzero, ofNat, ofRatio, ofUnits_eq_finite hrepresentable hround]

/-- A number that is read without a sign is not below zero. -/
theorem zero_le_ofDecimal (d : Decimal) : le 0 (ofDecimal false d) = true := by
  obtain ⟨hzero, heq⟩ := exists_zero_eq_finite
  have hunits (num den : Nat) : le 0 (ofUnits false num den) = true := by
    rw [heq, ofUnits]
    split
    · simp [le, signed]
    · rfl
  unfold ofDecimal
  split
  · exact hunits _ _
  · split
    · rw [heq]; rfl
    · exact hunits _ _

end Binary64

namespace Strength

/-! ## Numbers without a sign -/

/-- How the number of a line is written. -/
structure Numeral where
  /-- The digits that may stand in front. -/
  whole : List Char
  /-- Whether there is a point behind them. -/
  point : Bool
  /-- The digits at the end. -/
  digits : List Char

/-- Whether a number is written with digits only, and with one at its end. -/
structure Numeral.Proper (n : Numeral) : Prop where
  /-- What stands in front are digits. -/
  whole : ∀ c ∈ n.whole, isDigit c = true
  /-- What stands at the end are digits. -/
  digits : ∀ c ∈ n.digits, isDigit c = true
  /-- There is a digit at the end. -/
  digits_ne_nil : n.digits ≠ []

/-- The characters of a number. -/
def Numeral.chars (n : Numeral) : List Char :=
  n.whole ++ (if n.point then ['.'] else []) ++ n.digits

/-- The value of a number: that of all its digits, as many of them behind the point as stand
behind it. -/
def Numeral.value (n : Numeral) : Binary64 :=
  .ofDecimal false ⟨digitsValue (n.whole ++ n.digits), if n.point then -n.digits.length else 0⟩

variable {cs : List Char} {n : Numeral}

theorem Numeral.Proper.isDigit (proper : n.Proper) :
    ∀ c ∈ n.whole ++ n.digits, Argumentation.isDigit c = true := fun c hc =>
  (List.mem_append.1 hc).elim (proper.whole c) (proper.digits c)

theorem isDecimal_chars (proper : n.Proper) : isDecimal n.chars = true := by
  obtain ⟨whole, point, digits⟩ := n
  have hne : digits ≠ [] := proper.digits_ne_nil
  cases point with
  | false =>
    have hdrop : (whole ++ digits).dropWhile isDigit = [] :=
      List.dropWhile_eq_nil_iff.2 proper.isDigit
    simp only [Numeral.chars, Bool.false_eq_true, if_false, List.append_nil]
    rw [isDecimal, hdrop]
    simp [hne]
  | true =>
    have hpoint : ∀ c ∈ ('.' :: digits).head?, isDigit c = false := by
      rintro c ⟨⟩
      decide
    have hdrop : (whole ++ '.' :: digits).dropWhile isDigit = '.' :: digits :=
      (Text.span_append proper.whole hpoint).2
    simp only [Numeral.chars, if_true, List.append_assoc, List.singleton_append]
    rw [isDecimal, hdrop]
    simpa using ⟨hne, proper.digits⟩

theorem exists_eq_chars (h : isDecimal cs = true) : ∃ n : Numeral, n.Proper ∧ cs = n.chars := by
  have hsplit : cs.takeWhile isDigit ++ cs.dropWhile isDigit = cs := List.takeWhile_append_dropWhile
  have hwhole : ∀ c ∈ cs.takeWhile isDigit, isDigit c = true :=
    List.all_eq_true.1 List.all_takeWhile
  unfold isDecimal at h
  split at h
  · next hrest =>
    rw [hrest, List.append_nil] at hsplit
    rw [hsplit] at hwhole
    exact ⟨⟨[], false, cs⟩, ⟨List.forall_mem_nil _, hwhole, of_decide_eq_true h⟩, rfl⟩
  · next digits hrest =>
    rw [Bool.and_eq_true, decide_eq_true_eq, List.all_eq_true] at h
    refine ⟨⟨cs.takeWhile isDigit, true, digits⟩, ⟨hwhole, h.2, h.1⟩, ?_⟩
    rw [hrest] at hsplit
    simpa [Numeral.chars] using hsplit.symm
  · cases h

theorem read?_chars (proper : n.Proper) : Decimal.read? n.chars =
    some ⟨digitsValue (n.whole ++ n.digits), if n.point then -n.digits.length else 0⟩ := by
  have hne : n.whole ++ n.digits ≠ [] :=
    List.append_ne_nil_of_right_ne_nil n.whole proper.digits_ne_nil
  rw [Numeral.chars]
  cases n.point with
  | false =>
    rw [if_neg Bool.false_ne_true, List.append_nil, if_neg Bool.false_ne_true]
    exact read?_whole proper.isDigit hne
  | true =>
    rw [if_pos rfl, if_pos rfl, List.append_assoc]
    exact read?_point proper.whole proper.digits hne

theorem startsNumber_of_mem_chars (proper : n.Proper) {c : Char} (hc : c ∈ n.chars) :
    Binary64.StartsNumber c := by
  rw [Numeral.chars, List.mem_append, List.mem_append] at hc
  obtain (hc | hc) | hc := hc
  · exact .inl (proper.whole c hc)
  · split at hc
    · exact .inr (List.mem_singleton.1 hc)
    · cases hc
  · exact .inl (proper.digits c hc)

/-- Every number of this form is read, with its value. -/
theorem ofChars?_chars (proper : n.Proper) : Binary64.ofChars? n.chars = some n.value := by
  obtain ⟨c, rest, hcons⟩ : ∃ c rest, n.chars = c :: rest :=
    List.exists_cons_of_ne_nil (by simp [Numeral.chars, proper.digits_ne_nil])
  have hc : Binary64.StartsNumber c :=
    startsNumber_of_mem_chars proper (hcons ▸ List.mem_cons_self)
  rw [hcons, Binary64.ofChars?_of_startsNumber hc, Binary64.ofUnsigned?_of_startsNumber false hc,
    ← hcons, read?_chars proper, Option.map_some, Numeral.value]

/-- Of a number without a sign, only the upper bound has to be checked. -/
theorem contains_unitRange (n : Numeral) : unitRange.contains n.value = n.value.le 1 := by
  have hzero : Binary64.le 0 n.value = true := Binary64.zero_le_ofDecimal _
  simp only [WeightRange.contains, unitRange, hzero, Bool.true_and]

/-! ## Lines -/

/-- Whether a line gives an argument a strength: trimmed, it consists of letters and digits that
name the argument in letters of either case, a colon, and a number that is at most one. -/
def Gives (line id : String) (x : Binary64) : Prop :=
  ∃ (name : List Char) (n : Numeral), Text.trimChars line.toList = name ++ ':' :: n.chars ∧
    name ≠ [] ∧ (∀ c ∈ name, isAlphanumeric c = true) ∧ n.Proper ∧ n.value.le 1 = true ∧
      id = String.ofList (name.map lowerAscii) ∧ x = n.value

theorem splitColon?_eq_some_iff {name value : List Char} :
    splitColon? cs = some (name, value) ↔ ':' ∉ name ∧ cs = name ++ ':' :: value := by
  constructor
  · intro h
    unfold splitColon? at h
    split at h
    · next mark rest hrest =>
      obtain ⟨rfl, rfl⟩ := Prod.mk.inj (Option.some.inj h)
      have hmark : mark = ':' := by
        have hstop := List.head?_dropWhile_not (· ≠ ':') cs
        rw [hrest] at hstop
        simpa using hstop
      refine ⟨fun hc => ?_, ?_⟩
      · exact absurd (List.all_eq_true.1 List.all_takeWhile ':' hc) (by decide)
      · have hall : cs.takeWhile (· ≠ ':') ++ cs.dropWhile (· ≠ ':') = cs :=
          List.takeWhile_append_dropWhile
        rw [hrest, hmark] at hall
        exact hall.symm
    · cases h
  · rintro ⟨hname, rfl⟩
    obtain ⟨htake, hdrop⟩ := Text.span_mark hname value
    rw [splitColon?, hdrop, htake]

/-- A line is read if and only if it gives a strength, and then as it says. -/
theorem parseLine?_eq_some_iff {line id : String} {x : Binary64} :
    parseLine? line = some (id, x) ↔ Gives line id x := by
  simp only [parseLine?, Option.bind_eq_bind, Option.bind_eq_some_iff, Prod.exists]
  constructor
  · rintro ⟨name, value, hsplit, h⟩
    obtain ⟨-, hline⟩ := splitColon?_eq_some_iff.1 hsplit
    split at h
    · next hform =>
      obtain ⟨hne, hname, hdecimal⟩ := hform
      obtain ⟨n, proper, rfl⟩ := exists_eq_chars hdecimal
      have hname := List.all_eq_true.1 hname
      rw [ofChars?_chars proper, Option.bind_some, contains_unitRange] at h
      split at h
      · next hle =>
        obtain ⟨rfl, rfl⟩ := Prod.mk.inj (Option.some.inj h)
        exact ⟨name, n, hline, hne, hname, proper, hle, canonicalId_ofList hname, rfl⟩
      · cases h
    · cases h
  · rintro ⟨name, n, hline, hne, hname, proper, hle, rfl, rfl⟩
    have hcolon : ':' ∉ name := fun hc => absurd (hname ':' hc) (by decide)
    refine ⟨name, n.chars, splitColon?_eq_some_iff.2 ⟨hcolon, hline⟩, ?_⟩
    rw [if_pos ⟨hne, List.all_eq_true.2 hname, isDecimal_chars proper⟩,
      ofChars?_chars proper, Option.bind_some, contains_unitRange, if_pos hle,
      canonicalId_ofList hname]

/-! ## Buckets -/

/-- Whether a bucket is the first whose bound is not below a strength. -/
structure IsFirstBound (x : Binary64) (i : Nat) : Prop where
  /-- The bound is not below the strength. -/
  le : ∃ b ∈ bounds[i]?, x.le b = true
  /-- The bounds in front are below the strength. -/
  first : ∀ j < i, ∀ b ∈ bounds[j]?, x.le b = false

theorem length_bounds : bounds.length = lastBucket + 1 := rfl

/-- A strength that is at most one belongs to a bucket. -/
theorem isFirstBound_bucket {x : Binary64} (h : x.le 1 = true) : IsFirstBound x (bucket x) := by
  have hlast : 1 ∈ bounds := by decide +kernel
  cases hfind : bounds.findIdx? x.le with
  | none => exact absurd (List.findIdx?_eq_none_iff.1 hfind 1 hlast) (by simp [h])
  | some i =>
    obtain ⟨hi, hle, hfirst⟩ := List.findIdx?_eq_some_iff_getElem.1 hfind
    rw [bucket, hfind, Option.getD_some]
    constructor
    case le => exact ⟨bounds[i], List.getElem?_eq_getElem hi, hle⟩
    case first =>
      intro j hj b hb
      obtain ⟨hlt, rfl⟩ := List.getElem?_eq_some_iff.1 hb
      exact Bool.eq_false_iff.2 (hfirst j hj)

theorem bucket_le (x : Binary64) : bucket x ≤ lastBucket := by
  unfold bucket
  cases hfind : bounds.findIdx? x.le with
  | none => exact Nat.le_refl _
  | some i =>
    have hi := (List.findIdx?_eq_some_iff_getElem.1 hfind).1
    rw [length_bounds] at hi
    exact Nat.le_of_lt_succ hi

/-- A greater strength does not belong to a lower bucket. -/
theorem bucket_mono {x y : Binary64} (h : x.le y = true) : bucket x ≤ bucket y := by
  cases hy : bounds.findIdx? y.le with
  | none =>
    have hlast : bucket y = lastBucket := by rw [bucket, hy, Option.getD_none]
    rw [hlast]
    exact bucket_le x
  | some j =>
    obtain ⟨hj, hle, -⟩ := List.findIdx?_eq_some_iff_getElem.1 hy
    have hbelow : x.le bounds[j] = true := Binary64.le_trans h hle
    cases hx : bounds.findIdx? x.le with
    | none =>
      exact absurd (List.findIdx?_eq_none_iff.1 hx _ (List.getElem_mem hj)) (by simp [hbelow])
    | some i =>
      obtain ⟨_, -, hfirst⟩ := List.findIdx?_eq_some_iff_getElem.1 hx
      rw [bucket, bucket, hx, hy, Option.getD_some, Option.getD_some]
      exact Nat.le_of_not_lt fun hlt => hfirst j hlt hbelow

end Strength

end Argumentation
