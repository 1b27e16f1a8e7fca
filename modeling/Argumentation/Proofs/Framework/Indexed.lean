import Argumentation.Proofs.Framework

/-!
# Indexed frameworks

A framework can be kept with an index of its arguments and an index of its relations, which lead
to places in the lists.  What is declared again is then overwritten at its place, and all that is
new goes to the end and into the index.

An indexed framework that represents a framework does so after every declaration
(`Represents.declareArgument`, `Represents.declareRelation`).  A framework leaves no choice for
what represents it: the lists are its own, and the indices find the same (`Represents.same`).
-/

namespace Argumentation

/-! ## Indices -/

/-- Whether an index leads from each key of a list to its place, and from no other key. -/
def Indexes {κ : Type} (look : κ → Option Nat) (keys : List κ) : Prop :=
  ∀ k i, look k = some i ↔ keys[i]? = some k

namespace Indexes

variable {κ : Type} {look look' : κ → Option Nat} {keys : List κ} {k : κ}

theorem eq_none_iff (h : Indexes look keys) : look k = none ↔ k ∉ keys := by
  rw [Option.eq_none_iff_forall_ne_some, List.mem_iff_getElem?, not_exists]
  exact forall_congr' fun i => not_congr (h k i)

/-- An index is determined by the list. -/
theorem look_eq (h : Indexes look keys) (h' : Indexes look' keys) (k : κ) : look k = look' k := by
  refine Option.ext fun i => ?_
  rw [h k i, h' k i]

theorem congr (h : Indexes look keys) (heq : ∀ k, look' k = look k) : Indexes look' keys :=
  fun k i => by rw [heq, h k i]

variable [DecidableEq κ]

theorem append (h : Indexes look keys) (hk : k ∉ keys)
    (hlook : ∀ j, look' j = if k = j then some keys.length else look j) :
    Indexes look' (keys ++ [k]) := by
  have hbeyond {i : Nat} (hi : keys.length < i) : (keys ++ [k])[i]? = none := by
    rw [List.getElem?_eq_none_iff, List.length_append]
    exact hi
  intro j i
  rw [hlook]
  split
  · next hj =>
    subst hj
    rw [Option.some_inj]
    constructor
    · rintro rfl
      exact List.getElem?_concat_length
    · intro hi
      rcases Nat.lt_trichotomy i keys.length with hlt | heq | hgt
      · rw [List.getElem?_append_left hlt] at hi
        exact absurd (List.mem_of_getElem? hi) hk
      · exact heq.symm
      · rw [hbeyond hgt] at hi
        cases hi
  · next hj =>
    rw [h j i]
    rcases Nat.lt_trichotomy i keys.length with hlt | heq | hgt
    · rw [List.getElem?_append_left hlt]
    · rw [heq, List.getElem?_concat_length, List.getElem?_eq_none (Nat.le_refl _)]
      simp [hj]
    · rw [List.getElem?_eq_none (Nat.le_of_lt hgt), hbeyond hgt]

end Indexes

/-- Overwrites the value at a place. -/
def overwrite {κ β : Type} (l : List (κ × β)) (i : Nat) (v : β) : List (κ × β) :=
  l.modify i fun e => (e.1, v)

namespace Assoc

variable {κ β : Type} [DecidableEq κ] {l : Assoc κ β} {k : κ}

/-- A key that has a place is overwritten there. -/
theorem put_of_getElem? {i : Nat} (hnodup : l.keys.Nodup) (h : l.keys[i]? = some k) (v : β) :
    put k v l = overwrite l i v := by
  induction l generalizing i with
  | nil => cases h
  | cons e l ih =>
    rw [keys_cons] at h hnodup
    rw [List.nodup_cons] at hnodup
    cases i with
    | zero =>
      cases Option.some.inj h
      rw [put, if_pos rfl]
      rfl
    | succ i =>
      have hne : e.1 ≠ k := fun heq => hnodup.1 (heq ▸ List.mem_of_getElem? h)
      rw [put, if_neg hne, ih hnodup.2 h]
      rfl

/-- An entry is put by way of an index. -/
theorem put_eq_of_indexes {look : κ → Option Nat} (hnodup : l.keys.Nodup)
    (h : Indexes look l.keys) (v : β) :
    put k v l =
      match look k with
      | some i => overwrite l i v
      | none => l ++ [(k, v)] := by
  cases hk : look k with
  | some i => exact put_of_getElem? hnodup ((h k i).1 hk) v
  | none => exact put_of_not_mem (h.eq_none_iff.1 hk) v

end Assoc

/-! ## Frameworks -/

/-- A framework with an index of its arguments and one of its relations. -/
structure IndexedFramework where
  /-- The arguments with their weights. -/
  arguments : List (String × Option Binary64) := []
  /-- The places of the arguments. -/
  argumentIndex : Assoc String Nat := []
  /-- The attacks with their weights. -/
  attacks : List (Ends × Option Binary64) := []
  /-- The supports with their weights. -/
  supports : List (Ends × Option Binary64) := []
  /-- The places of the attacks and of the supports. -/
  relationIndex : Assoc RelationKey Nat := []

namespace IndexedFramework

/-- The relations of a kind. -/
def relationsOf (x : IndexedFramework) : RelationKind → List (Ends × Option Binary64)
  | .attack => x.attacks
  | .support => x.supports

/-- Sets the relations of a kind. -/
def setRelationsOf (x : IndexedFramework) (kind : RelationKind)
    (l : List (Ends × Option Binary64)) : IndexedFramework :=
  match kind with
  | .attack => { x with attacks := l }
  | .support => { x with supports := l }

/-- The place of a relation among those of its kind. -/
def place? (x : IndexedFramework) (kind : RelationKind) (e : Ends) : Option Nat :=
  x.relationIndex.get? ⟨kind, e.1, e.2⟩

/-- Declares an argument. -/
def declareArgument (x : IndexedFramework) (id : String) (weight : Option Binary64) :
    IndexedFramework :=
  match x.argumentIndex.get? id with
  | some i => { x with arguments := overwrite x.arguments i weight }
  | none =>
    { x with
      argumentIndex := x.argumentIndex.put id x.arguments.length
      arguments := x.arguments ++ [(id, weight)] }

/-- Declares a relation. -/
def declareRelation (x : IndexedFramework) (key : RelationKey) (weight : Option Binary64) :
    IndexedFramework :=
  let l := x.relationsOf key.kind
  match x.relationIndex.get? key with
  | some i => x.setRelationsOf key.kind (overwrite l i weight)
  | none =>
    { x.setRelationsOf key.kind (l ++ [((key.source, key.target), weight)]) with
      relationIndex := x.relationIndex.put key l.length }

/-- The indexed framework in which some arguments and then some relations are declared. -/
def ofEntries (arguments : Assoc String (Option Binary64))
    (relations : Assoc RelationKey (Option Binary64)) : IndexedFramework :=
  relations.foldl (fun x e => x.declareRelation e.1 e.2)
    (arguments.foldl (fun x e => x.declareArgument e.1 e.2) {})

section

variable (x : IndexedFramework) (key : RelationKey) (weight : Option Binary64)

theorem relationsOf_setRelationsOf (kind kind' : RelationKind)
    (l : List (Ends × Option Binary64)) :
    (x.setRelationsOf kind l).relationsOf kind' =
      if kind = kind' then l else x.relationsOf kind' := by
  cases kind <;> cases kind' <;> rfl

theorem relationIndex_setRelationsOf (kind : RelationKind) (l : List (Ends × Option Binary64)) :
    (x.setRelationsOf kind l).relationIndex = x.relationIndex := by
  cases kind <;> rfl

theorem arguments_declareRelation : (x.declareRelation key weight).arguments = x.arguments := by
  cases key with
  | mk kind s t => cases kind <;> simp only [declareRelation] <;> split <;> rfl

theorem argumentIndex_declareRelation :
    (x.declareRelation key weight).argumentIndex = x.argumentIndex := by
  cases key with
  | mk kind s t => cases kind <;> simp only [declareRelation] <;> split <;> rfl

theorem relationsOf_declareRelation (kind : RelationKind) :
    (x.declareRelation key weight).relationsOf kind =
      if key.kind = kind then
        match x.relationIndex.get? key with
        | some i => overwrite (x.relationsOf key.kind) i weight
        | none => x.relationsOf key.kind ++ [((key.source, key.target), weight)]
      else x.relationsOf kind := by
  simp only [declareRelation]
  split
  · exact relationsOf_setRelationsOf x _ _ _
  · exact relationsOf_setRelationsOf x _ _ _

theorem place?_declareRelation (kind : RelationKind) (e : Ends) :
    (x.declareRelation key weight).place? kind e =
      match x.relationIndex.get? key with
      | some _ => x.place? kind e
      | none =>
        if key = ⟨kind, e.1, e.2⟩ then some (x.relationsOf key.kind).length
        else x.place? kind e := by
  simp only [declareRelation, place?]
  split
  · rw [relationIndex_setRelationsOf]
  · rw [Assoc.get?_put]

end

/-! ## Representing -/

/-- Whether an indexed framework represents a framework. -/
structure Represents (x : IndexedFramework) (f : Framework) : Prop where
  /-- The arguments are the same. -/
  arguments : x.arguments = f.arguments
  /-- The relations of each kind are the same. -/
  relationsOf : ∀ kind, x.relationsOf kind = f.relationsOf kind
  /-- The arguments are indexed. -/
  argumentIndex : Indexes x.argumentIndex.get? f.arguments.keys
  /-- The relations of each kind are indexed. -/
  relationIndex : ∀ kind, Indexes (x.place? kind) (f.relationsOf kind).keys

/-- Whether two indexed frameworks say the same in the same order, with the weights compared as
numbers, and find the same. -/
structure Same (x y : IndexedFramework) : Prop where
  /-- The arguments are the same. -/
  arguments : Framework.sameList x.arguments y.arguments = true
  /-- The attacks are the same. -/
  attacks : Framework.sameList x.attacks y.attacks = true
  /-- The supports are the same. -/
  supports : Framework.sameList x.supports y.supports = true
  /-- Arguments are found at the same places. -/
  argumentIndex : ∀ id, x.argumentIndex.get? id = y.argumentIndex.get? id
  /-- Relations are found at the same places. -/
  relationIndex : ∀ key, x.relationIndex.get? key = y.relationIndex.get? key

theorem represents_empty : Represents {} {} where
  arguments := rfl
  relationsOf kind := by cases kind <;> rfl
  argumentIndex k i := by simp [Assoc.get?, Assoc.keys]
  relationIndex kind := by
    cases kind <;> exact fun k i => by simp [place?, Assoc.get?, Assoc.keys, Framework.relationsOf]

namespace Represents

variable {x y : IndexedFramework} {f : Framework} (rep : x.Represents f)
include rep

/-- Equal numbers are all that is asked of the weights. -/
theorem same (rep' : y.Represents f) (hf : f.numEq f = true) : x.Same y := by
  simp only [Framework.numEq, Bool.and_eq_true] at hf
  have hattacks : x.attacks = f.attacks := rep.relationsOf .attack
  have hattacks' : y.attacks = f.attacks := rep'.relationsOf .attack
  have hsupports : x.supports = f.supports := rep.relationsOf .support
  have hsupports' : y.supports = f.supports := rep'.relationsOf .support
  refine ⟨?_, ?_, ?_, rep.argumentIndex.look_eq rep'.argumentIndex, fun key => ?_⟩
  · rw [rep.arguments, rep'.arguments]
    exact hf.1.1
  · rw [hattacks, hattacks']
    exact hf.1.2
  · rw [hsupports, hsupports']
    exact hf.2
  · exact (rep.relationIndex key.kind).look_eq (rep'.relationIndex key.kind)
      (key.source, key.target)

theorem declareArgument (distinct : f.Distinct) (id : String) (w : Option Binary64) :
    (x.declareArgument id w).Represents (f.declareArgument id w) := by
  have hput := Assoc.put_eq_of_indexes distinct.arguments rep.argumentIndex (k := id) w
  unfold IndexedFramework.declareArgument Framework.declareArgument
  cases hlook : x.argumentIndex.get? id with
  | some i =>
    rw [hlook] at hput
    have hmem : id ∈ f.arguments.keys := List.mem_of_getElem? ((rep.argumentIndex id i).1 hlook)
    refine ⟨?_, rep.relationsOf, ?_, rep.relationIndex⟩
    · rw [rep.arguments]
      exact hput.symm
    · rw [Assoc.keys_put, if_pos hmem]
      exact rep.argumentIndex
  | none =>
    rw [hlook] at hput
    have hmem : id ∉ f.arguments.keys := rep.argumentIndex.eq_none_iff.1 hlook
    refine ⟨?_, rep.relationsOf, ?_, rep.relationIndex⟩
    · rw [rep.arguments]
      exact hput.symm
    · rw [Assoc.keys_put, if_neg hmem]
      refine rep.argumentIndex.append hmem fun j => ?_
      rw [Assoc.get?_put, rep.arguments, Assoc.keys, List.length_map]

theorem declareRelation (distinct : f.Distinct) (key : RelationKey) (w : Option Binary64) :
    (x.declareRelation key w).Represents (f.declareRelation key w) := by
  have hput := Assoc.put_eq_of_indexes (distinct.relationsOf key.kind)
    (rep.relationIndex key.kind) (k := (key.source, key.target)) w
  have hplace : x.place? key.kind (key.source, key.target) = x.relationIndex.get? key := rfl
  refine ⟨?_, fun kind => ?_, ?_, fun kind => ?_⟩
  · rw [arguments_declareRelation, Framework.arguments_declareRelation, rep.arguments]
  · rw [relationsOf_declareRelation, Framework.relationsOf_declareRelation, rep.relationsOf,
      rep.relationsOf, ← hplace, ← hput]
    split
    · next hk => rw [hk]
    · rfl
  · rw [argumentIndex_declareRelation, Framework.arguments_declareRelation]
    exact rep.argumentIndex
  · rw [Framework.relationsOf_declareRelation]
    cases decEq key.kind kind with
    | isTrue hk =>
      subst hk
      rw [if_pos rfl, Assoc.keys_put]
      cases hlook : x.relationIndex.get? key with
      | some i =>
        rw [if_pos (List.mem_of_getElem?
          ((rep.relationIndex key.kind (key.source, key.target) i).1 hlook))]
        refine (rep.relationIndex key.kind).congr fun e => ?_
        rw [place?_declareRelation, hlook]
      | none =>
        have hnew : (key.source, key.target) ∉ (f.relationsOf key.kind).keys :=
          (rep.relationIndex key.kind).eq_none_iff.1 hlook
        rw [if_neg hnew]
        refine (rep.relationIndex key.kind).append hnew fun e => ?_
        have hkey : key = ⟨key.kind, e.1, e.2⟩ ↔ (key.source, key.target) = e := by
          cases key
          cases e
          simp
        simp only [place?_declareRelation, hlook, hkey, rep.relationsOf, Assoc.keys,
          List.length_map]
    | isFalse hk =>
      rw [if_neg hk]
      refine (rep.relationIndex kind).congr fun e => ?_
      rw [place?_declareRelation]
      split
      · rfl
      · exact if_neg fun heq => hk (congrArg RelationKey.kind heq)

end Represents

/-- An indexed framework represents what is declared in it. -/
theorem represents_ofEntries (arguments : Assoc String (Option Binary64))
    (relations : Assoc RelationKey (Option Binary64)) :
    (ofEntries arguments relations).Represents (Framework.ofEntries arguments relations) := by
  have harguments {x : IndexedFramework} {f : Framework} (rep : x.Represents f)
      (distinct : f.Distinct) :
      (arguments.foldl (fun x e => x.declareArgument e.1 e.2) x).Represents
          (arguments.foldl (fun f e => f.declareArgument e.1 e.2) f) ∧
        (arguments.foldl (fun f e => f.declareArgument e.1 e.2) f).Distinct := by
    induction arguments generalizing x f with
    | nil => exact ⟨rep, distinct⟩
    | cons e arguments ih =>
      exact ih (rep.declareArgument distinct e.1 e.2) (distinct.declareArgument e.1 e.2)
  have hrelations {x : IndexedFramework} {f : Framework} (rep : x.Represents f)
      (distinct : f.Distinct) :
      (relations.foldl (fun x e => x.declareRelation e.1 e.2) x).Represents
          (relations.foldl (fun f e => f.declareRelation e.1 e.2) f) := by
    induction relations generalizing x f with
    | nil => exact rep
    | cons e relations ih =>
      exact ih (rep.declareRelation distinct e.1 e.2) (distinct.declareRelation e.1 e.2)
  obtain ⟨rep, distinct⟩ := harguments represents_empty Framework.distinct_empty
  exact hrelations rep distinct

end IndexedFramework

end Argumentation
