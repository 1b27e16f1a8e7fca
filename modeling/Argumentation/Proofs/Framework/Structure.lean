import Argumentation.Proofs.Framework.Declared
import Mathlib.Data.List.Nodup

/-!
# Frameworks that say the same

Two frameworks have the same structure if the maps that are made of their lists are equal, with
the weights compared as numbers.  A map has room for one weight of each argument and of each
relation, and so have the lists: nothing is declared twice.  So no entry is lost when the maps are
made (`Assoc.collect_eq_self`), and the maps are equal if and only if the lists are rearrangements
of each other (`Assoc.sameEntries_iff_rearranged`).

It follows that to have the same structure is an equivalence among frameworks that have no other
weights than numbers, and declarations keep it (`declared_sameStructure`).
-/

namespace Argumentation

/-! ## Rearranged entries -/

namespace Assoc

theorem nodup_of_nodup_keys {κ β : Type} {l : Assoc κ β} (h : l.keys.Nodup) : l.Nodup :=
  List.Nodup.of_map Prod.fst h

variable {κ β : Type} [DecidableEq κ] {same : β → β → Bool} {l m : Assoc κ β}

/-- Whether two entries have one key and equal values. -/
def SameEntry (same : β → β → Bool) (e d : κ × β) : Prop := e.1 = d.1 ∧ same e.2 d.2 = true

/-- Whether a list is a permutation of another one, with equal values. -/
def Rearranged (same : β → β → Bool) (l m : Assoc κ β) : Prop :=
  ∃ l', l.Perm l' ∧ List.Forall₂ (SameEntry same) l' m

/-- The map that is made of a list, one entry after the other. -/
def collect (l : Assoc κ β) : Assoc κ β := l.foldl (fun l e => put e.1 e.2 l) []

theorem collect_eq_self (nodup : l.keys.Nodup) : collect l = l := by
  have hnew : keys ([] ++ l) = keys l := rfl
  rw [collect, foldl_put_of_nodup l (hnew ▸ nodup), List.nil_append]

theorem rel_get?_of_forall₂ (h : List.Forall₂ (SameEntry same) l m) (k : κ) :
    Option.Rel (fun v w => same v w = true) (l.get? k) (m.get? k) := by
  induction h with
  | nil => exact .none
  | cons hentry _ ih =>
    rw [get?_cons, get?_cons, hentry.1]
    split
    · exact .some hentry.2
    · exact ih

/-- The entries of a list under the keys of another one, in the order of that one. -/
def arrange (l m : Assoc κ β) : Assoc κ β := m.map fun d => (d.1, (l.get? d.1).getD d.2)

theorem mem_arrange_iff (hl : l.keys.Nodup) (hm : m.keys.Nodup)
    (h : ∀ k, Option.Rel (fun v w => same v w = true) (l.get? k) (m.get? k)) {e : κ × β} :
    e ∈ l ↔ e ∈ arrange l m := by
  constructor
  · intro he
    obtain ⟨w, hw, -⟩ := exists_of_rel_left hl he (h e.1)
    refine List.mem_map.2 ⟨(e.1, w), mem_of_get? hw, ?_⟩
    rw [(get?_eq_some_iff hl).2 he]
    rfl
  · intro he
    obtain ⟨d, hd, rfl⟩ := List.mem_map.1 he
    obtain ⟨v, hv, -⟩ := exists_of_rel_right hm hd (h d.1)
    rw [hv]
    exact mem_of_get? hv

/-- Two lists in which every key occurs once hold the same entries if and only if they are
rearrangements of each other. -/
theorem sameEntries_iff_rearranged (hl : l.keys.Nodup) (hm : m.keys.Nodup) :
    sameEntries same l m = true ↔ Rearranged same l m := by
  rw [sameEntries_iff hl hm]
  constructor
  · intro h
    refine ⟨arrange l m, ?_, ?_⟩
    · have hkeys : keys (arrange l m) = keys m := by
        rw [keys, arrange, List.map_map]
        rfl
      have harranged : (arrange l m).Nodup := nodup_of_nodup_keys (hkeys ▸ hm)
      exact (List.perm_ext_iff_of_nodup (nodup_of_nodup_keys hl) harranged).2
        fun e => mem_arrange_iff hl hm h
    · rw [arrange, List.forall₂_map_left_iff, List.forall₂_same]
      intro d hd
      obtain ⟨v, hv, hsame⟩ := exists_of_rel_right hm hd (h d.1)
      rw [hv]
      exact ⟨rfl, hsame⟩
  · rintro ⟨l', hperm, hforall⟩ k
    rw [get?_perm hperm hl]
    exact rel_get?_of_forall₂ hforall k

end Assoc

/-! ## The comparison of frameworks -/

namespace Framework

open Binary64

variable {f g : Framework}

/-- Whether the maps that are made of the lists of two frameworks are equal, with the weights
compared as numbers. -/
def sameMaps (f g : Framework) : Bool :=
  Assoc.sameEntries optionEq (Assoc.collect f.arguments) (Assoc.collect g.arguments) &&
    Assoc.sameEntries optionEq (Assoc.collect f.relations) (Assoc.collect g.relations)

/-- No entry is lost when the maps are made. -/
theorem sameMaps_eq_sameStructure (hf : f.Distinct) (hg : g.Distinct) :
    f.sameMaps g = f.sameStructure g := by
  rw [sameMaps, Assoc.collect_eq_self hf.arguments, Assoc.collect_eq_self hg.arguments,
    Assoc.collect_eq_self hf.relations, Assoc.collect_eq_self hg.relations]
  rfl

theorem sameStructure_iff_rearranged (hf : f.Distinct) (hg : g.Distinct) :
    f.sameStructure g = true ↔ Assoc.Rearranged optionEq f.arguments g.arguments ∧
      Assoc.Rearranged optionEq f.relations g.relations := by
  rw [sameStructure, Bool.and_eq_true,
    Assoc.sameEntries_iff_rearranged hf.arguments hg.arguments,
    Assoc.sameEntries_iff_rearranged hf.relations hg.relations]

/-- The relations of each kind can be compared apart. -/
theorem sameStructure_iff_relationsOf (hf : f.Distinct) (hg : g.Distinct) :
    f.sameStructure g = true ↔
      (∀ id, Option.Rel (fun v w => optionEq v w = true) (f.arguments.get? id)
        (g.arguments.get? id)) ∧
      ∀ kind e, Option.Rel (fun v w => optionEq v w = true) ((f.relationsOf kind).get? e)
        ((g.relationsOf kind).get? e) := by
  rw [sameStructure_iff hf hg]
  refine and_congr_right fun _ => ?_
  constructor
  · intro h kind e
    have hkey := h ⟨kind, e.1, e.2⟩
    rwa [hf.get?_relations, hg.get?_relations] at hkey
  · intro h key
    rw [hf.get?_relations, hg.get?_relations]
    exact h key.kind (key.source, key.target)

theorem forall₂_of_sameList {κ : Type} [DecidableEq κ] {l m : Assoc κ (Option Binary64)}
    (h : sameList l m = true) : List.Forall₂ (Assoc.SameEntry optionEq) l m := by
  induction l generalizing m with
  | nil =>
    cases m with
    | nil => exact .nil
    | cons d m => cases h
  | cons e l ih =>
    cases m with
    | nil => cases h
    | cons d m =>
      rw [sameList, Bool.and_eq_true, Bool.and_eq_true, decide_eq_true_eq] at h
      exact .cons h.1 (ih h.2)

/-- Frameworks with the same lists have the same structure. -/
theorem sameStructure_of_numEq (hf : f.Distinct) (hg : g.Distinct) (h : f.numEq g = true) :
    f.sameStructure g = true := by
  rw [numEq, Bool.and_eq_true, Bool.and_eq_true] at h
  obtain ⟨⟨harguments, hattacks⟩, hsupports⟩ := h
  rw [sameStructure_iff_relationsOf hf hg]
  refine ⟨Assoc.rel_get?_of_forall₂ (forall₂_of_sameList harguments), fun kind => ?_⟩
  cases kind with
  | attack => exact Assoc.rel_get?_of_forall₂ (forall₂_of_sameList hattacks)
  | support => exact Assoc.rel_get?_of_forall₂ (forall₂_of_sameList hsupports)

/-! ## Declarations -/

theorem rel_put {κ : Type} [DecidableEq κ] {l m : Assoc κ (Option Binary64)} {k : κ}
    {w : Option Binary64} (hw : IsNumber w)
    (h : ∀ j, Option.Rel (fun v w => optionEq v w = true) (l.get? j) (m.get? j)) (j : κ) :
    Option.Rel (fun v w => optionEq v w = true) ((l.put k w).get? j) ((m.put k w).get? j) := by
  rw [Assoc.get?_put, Assoc.get?_put]
  split
  · exact .some (optionEq_self hw)
  · exact h j

/-- A declaration keeps frameworks of the same structure alike. -/
theorem sameStructure_declare (hf : f.Distinct) (hg : g.Distinct) {d : Declaration}
    (hd : IsNumber d.weight) (h : f.sameStructure g = true) :
    (f.declare d).sameStructure (g.declare d) = true := by
  rw [sameStructure_iff_relationsOf hf hg] at h
  rw [sameStructure_iff_relationsOf (hf.declare d) (hg.declare d)]
  cases d with
  | argument id weight =>
    refine ⟨rel_put hd h.1, fun kind => ?_⟩
    show ∀ e, Option.Rel _ (((f.declareArgument id weight).relationsOf kind).get? e)
      (((g.declareArgument id weight).relationsOf kind).get? e)
    rw [relationsOf_declareArgument, relationsOf_declareArgument]
    exact h.2 kind
  | relation key weight =>
    constructor
    · show ∀ id, Option.Rel _ ((f.declareRelation key weight).arguments.get? id)
        ((g.declareRelation key weight).arguments.get? id)
      rw [arguments_declareRelation, arguments_declareRelation]
      exact h.1
    · intro kind
      show ∀ e, Option.Rel _ (((f.declareRelation key weight).relationsOf kind).get? e)
        (((g.declareRelation key weight).relationsOf kind).get? e)
      rw [relationsOf_declareRelation, relationsOf_declareRelation]
      split
      · exact rel_put hd (h.2 kind)
      · exact h.2 kind

theorem sameStructure_foldl_declare (hf : f.Distinct) (hg : g.Distinct) {ds : List Declaration}
    (hds : ∀ d ∈ ds, IsNumber d.weight) (h : f.sameStructure g = true) :
    (ds.foldl declare f).sameStructure (ds.foldl declare g) = true := by
  induction ds generalizing f g with
  | nil => exact h
  | cons d ds ih =>
    have hstep := sameStructure_declare hf hg (hds d List.mem_cons_self) h
    exact ih (hf.declare d) (hg.declare d) (fun d hd => hds d (List.mem_cons_of_mem _ hd)) hstep

/-- Frameworks have the same structure if and only if their arguments are rearrangements of each
other, and their relations are, with the weights compared as numbers.  To have the same structure is
reflexive, symmetric and transitive.  Frameworks have it that are equal, and they keep it when the
same is declared in both. -/
theorem declared_sameStructure (ds es : List Declaration) (hds : ∀ d ∈ ds, IsNumber d.weight) :
    let f := declared ds
    let g := declared es
    f.sameMaps g = f.sameStructure g ∧
      (f.sameStructure g = true ↔ Assoc.Rearranged optionEq f.arguments g.arguments ∧
        Assoc.Rearranged optionEq f.relations g.relations) ∧
      f.sameStructure f = true ∧
      (f.sameStructure g = true → g.sameStructure f = true) ∧
      (∀ cs, f.sameStructure g = true → g.sameStructure (declared cs) = true →
        f.sameStructure (declared cs) = true) ∧
      (f.numEq g = true → f.sameStructure g = true) ∧
      ∀ cs : List Declaration, (∀ d ∈ cs, IsNumber d.weight) → f.sameStructure g = true →
        (cs.foldl declare f).sameStructure (cs.foldl declare g) = true := by
  intro f g
  have hf : f.Distinct := distinct_declared ds
  have hg : g.Distinct := distinct_declared es
  refine ⟨sameMaps_eq_sameStructure hf hg, sameStructure_iff_rearranged hf hg, ?_,
    sameStructure_symm hf hg, fun cs => ?_, sameStructure_of_numEq hf hg, fun cs hcs => ?_⟩
  · exact sameStructure_foldl_declare distinct_empty distinct_empty hds rfl
  · exact sameStructure_trans hf hg (distinct_declared cs)
  · exact sameStructure_foldl_declare hf hg hcs

/-- The same is declared in another order, with a weight that is set later and a zero that has the
other sign, and then both are declared a weight anew. -/
theorem declared_sameStructure_zero :
    let ds : List Declaration := [.argument "b" (some 1), .argument "a" none,
      .relation ⟨.support, "a", "b"⟩ none, .relation ⟨.attack, "a", "b"⟩ (some 1),
      .argument "b" (some 0)]
    let es : List Declaration := [.argument "a" none, .relation ⟨.attack, "a", "b"⟩ (some 1),
      .relation ⟨.support, "a", "b"⟩ none, .argument "b" (some (-0))]
    let cs : List Declaration := [.relation ⟨.support, "a", "b"⟩ (some 1), .argument "c" none]
    let f := declared ds
    let g := declared es
    ((∀ d ∈ ds, IsNumber d.weight) ∧ (∀ d ∈ cs, IsNumber d.weight) ∧ f.numEq g = false) ∧
      f.sameStructure g = true ∧ Assoc.Rearranged optionEq f.arguments g.arguments ∧
      (cs.foldl declare f).sameStructure (cs.foldl declare g) = true := by
  intro ds es cs f g
  have hds : ∀ d ∈ ds, IsNumber d.weight := by decide +kernel
  have hcs : ∀ d ∈ cs, IsNumber d.weight := by decide +kernel
  have hdiffer : f.numEq g = false := by decide +kernel
  have hsame : f.sameStructure g = true := by decide +kernel
  obtain ⟨-, hiff, -, -, -, -, hkept⟩ := declared_sameStructure ds es hds
  exact ⟨⟨hds, hcs, hdiffer⟩, hsame, (hiff.1 hsame).1, hkept cs hcs hsame⟩

end Framework

end Argumentation
