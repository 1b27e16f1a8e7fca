import Argumentation.Argument
import Argumentation.Framework
import Argumentation.Proofs.Data.Assoc

/-!
# What frameworks say

A framework is made from entries, for arguments and for relations, which are declared one
after the other (`Framework.ofEntries`).  If no key occurs twice among the entries, every
one of them is declared with its own weight (`relations_get?_ofEntries`).

`sameStructure_iff` says what the comparison of frameworks means: the same arguments and the
same relations are declared, with equal weights.  It follows that the comparison is
symmetric and transitive, and reflexive if every weight is a number.
-/

namespace Argumentation

/-! ## Equal numbers -/

namespace Binary64

theorem numEq_comm (x y : Binary64) : x.numEq y = y.numEq x := by
  cases x <;> cases y <;> simp only [numEq, Bool.beq_comm]

theorem numEq_trans {x y z : Binary64} (hxy : x.numEq y = true) (hyz : y.numEq z = true) :
    x.numEq z = true := by
  cases x <;> cases y <;> cases z <;> simp_all [numEq]

theorem numEq_self {x : Binary64} (h : x.isNan = false) : x.numEq x = true := by
  cases x <;> simp_all [numEq, isNan]

theorem le_congr_left {x y : Binary64} (h : x.numEq y = true) (z : Binary64) :
    x.le z = y.le z := by
  cases x with
  | nan => simp [numEq] at h
  | infinite s => cases y <;> simp_all [numEq]
  | finite s m hm =>
    cases y with
    | nan => simp [numEq] at h
    | infinite t => simp [numEq] at h
    | finite t n hn =>
      cases z with
      | nan => rfl
      | infinite u => cases u <;> rfl
      | finite u k hk => simp_all [numEq, le]

theorem le_congr_right {x y : Binary64} (h : x.numEq y = true) (z : Binary64) :
    z.le x = z.le y := by
  cases x with
  | nan => simp [numEq] at h
  | infinite s => cases y <;> simp_all [numEq]
  | finite s m hm =>
    cases y with
    | nan => simp [numEq] at h
    | infinite t => simp [numEq] at h
    | finite t n hn =>
      cases z with
      | nan => rfl
      | infinite u => cases u <;> rfl
      | finite u k hk => simp_all [numEq, le]

theorem isNan_congr {x y : Binary64} (h : x.numEq y = true) : x.isNan = y.isNan := by
  cases x <;> cases y <;> simp_all [numEq, isNan]

theorem optionEq_comm (x y : Option Binary64) : optionEq x y = optionEq y x := by
  cases x with
  | none => cases y <;> rfl
  | some v =>
    cases y with
    | none => rfl
    | some w => exact numEq_comm v w

theorem optionEq_trans {x y z : Option Binary64} (hxy : optionEq x y = true)
    (hyz : optionEq y z = true) : optionEq x z = true := by
  cases y with
  | none =>
    cases x with
    | none => exact hyz
    | some u => cases hxy
  | some v =>
    cases x with
    | none => cases hxy
    | some u =>
      cases z with
      | none => cases hyz
      | some w => exact numEq_trans hxy hyz

/-- Whether a weight, if there is one, is a number. -/
def IsNumber (w : Option Binary64) : Prop := ∀ x, w = some x → x.isNan = false

instance (w : Option Binary64) : Decidable (IsNumber w) :=
  inferInstanceAs (Decidable (∀ x ∈ w, x.isNan = false))

theorem optionEq_self {w : Option Binary64} (h : IsNumber w) : optionEq w w = true := by
  cases w with
  | none => rfl
  | some x => exact numEq_self (h x rfl)

end Binary64

namespace Framework

variable {f g h : Framework} {key : RelationKey} {w : Option Binary64}

/-! ## Relations of a kind -/

theorem relations_eq (f : Framework) :
    f.relations = withKind .attack (f.relationsOf .attack) ++
      withKind .support (f.relationsOf .support) := rfl

theorem mem_withKind_iff {kind : RelationKind} {l : Assoc Ends (Option Binary64)} :
    (key, w) ∈ withKind kind l ↔ key.kind = kind ∧ ((key.source, key.target), w) ∈ l := by
  cases key with
  | mk k s t =>
    constructor
    · intro hmem
      obtain ⟨⟨⟨s', t'⟩, w'⟩, he, heq⟩ := List.mem_map.1 hmem
      cases heq
      exact ⟨rfl, he⟩
    · rintro ⟨rfl, hmem⟩
      exact List.mem_map.2 ⟨((s, t), w), hmem, rfl⟩

theorem mem_relations_iff :
    (key, w) ∈ f.relations ↔ ((key.source, key.target), w) ∈ f.relationsOf key.kind := by
  rw [relations_eq, List.mem_append, mem_withKind_iff, mem_withKind_iff]
  cases key with
  | mk k s t => cases k <;> simp

theorem mem_keys_relations_iff :
    key ∈ f.relations.keys ↔ (key.source, key.target) ∈ (f.relationsOf key.kind).keys := by
  constructor
  · intro hk
    obtain ⟨⟨_, w⟩, he, rfl⟩ := List.mem_map.1 hk
    exact Assoc.mem_keys_of_mem (mem_relations_iff.1 he)
  · intro hk
    obtain ⟨⟨_, w⟩, he, heq⟩ := List.mem_map.1 hk
    cases heq
    exact Assoc.mem_keys_of_mem (mem_relations_iff.2 he)

theorem containsArgument_iff {id : String} :
    f.containsArgument id = true ↔ id ∈ f.arguments.keys := Assoc.contains_iff

theorem containsRelation_iff : f.containsRelation key = true ↔ key ∈ f.relations.keys := by
  rw [containsRelation, Assoc.contains_iff, mem_keys_relations_iff]

theorem ext_relationsOf (ha : f.arguments = g.arguments)
    (hr : ∀ kind, f.relationsOf kind = g.relationsOf kind) : f = g := by
  cases f with
  | mk fa ft fs =>
    cases g with
    | mk ga gt gs =>
      have hattacks : ft = gt := hr .attack
      have hsupports : fs = gs := hr .support
      cases ha
      cases hattacks
      cases hsupports
      rfl

/-! ## Nothing declared twice -/

/-- A framework in which nothing is declared twice. -/
structure Distinct (f : Framework) : Prop where
  /-- No argument is declared twice. -/
  arguments : f.arguments.keys.Nodup
  /-- No relation of a kind is declared twice. -/
  relationsOf : ∀ kind, (f.relationsOf kind).keys.Nodup

theorem nodup_keys_withKind {kind : RelationKind} {l : Assoc Ends (Option Binary64)}
    (hl : l.keys.Nodup) : (withKind kind l).keys.Nodup := by
  rw [Assoc.keys, withKind, List.map_map]
  refine List.pairwise_map.2 ((List.pairwise_map.1 hl).imp ?_)
  intro d e hne heq
  simp only [Function.comp_apply, RelationKey.mk.injEq, true_and] at heq
  exact hne (Prod.ext heq.1 heq.2)

theorem Distinct.relations (distinct : f.Distinct) : f.relations.keys.Nodup := by
  rw [relations_eq, Assoc.keys_append]
  refine List.nodup_append.2 ⟨nodup_keys_withKind (distinct.relationsOf _),
    nodup_keys_withKind (distinct.relationsOf _), ?_⟩
  intro j hj k hk heq
  obtain ⟨⟨i, v⟩, hd, rfl⟩ := List.mem_map.1 hj
  obtain ⟨⟨i', w⟩, he, rfl⟩ := List.mem_map.1 hk
  cases heq
  have hattack := (mem_withKind_iff.1 hd).1
  have hsupport := (mem_withKind_iff.1 he).1
  rw [hsupport] at hattack
  cases hattack

theorem Distinct.get?_relations (distinct : f.Distinct) (key : RelationKey) :
    f.relations.get? key = (f.relationsOf key.kind).get? (key.source, key.target) := by
  cases hget : (f.relationsOf key.kind).get? (key.source, key.target) with
  | none =>
    rw [Assoc.get?_eq_none_iff] at hget ⊢
    exact fun hk => hget (mem_keys_relations_iff.1 hk)
  | some w =>
    rw [Assoc.get?_eq_some_iff distinct.relations, mem_relations_iff]
    exact Assoc.mem_of_get? hget

theorem distinct_empty : Distinct {} where
  arguments := List.nodup_nil
  relationsOf kind := by cases kind <;> exact List.nodup_nil

theorem relationsOf_declareArgument (f : Framework) (id : String) (w : Option Binary64)
    (kind : RelationKind) : (f.declareArgument id w).relationsOf kind = f.relationsOf kind := by
  cases kind <;> rfl

theorem relationsOf_declareRelation (f : Framework) (key : RelationKey) (w : Option Binary64)
    (kind : RelationKind) : (f.declareRelation key w).relationsOf kind =
      if key.kind = kind then (f.relationsOf kind).put (key.source, key.target) w
      else f.relationsOf kind := by
  cases key with
  | mk k s t => cases k <;> cases kind <;> rfl

theorem arguments_declareRelation (f : Framework) (key : RelationKey) (w : Option Binary64) :
    (f.declareRelation key w).arguments = f.arguments := by
  cases key with
  | mk k s t => cases k <;> rfl

theorem Distinct.declareArgument (distinct : f.Distinct) (id : String) (w : Option Binary64) :
    (f.declareArgument id w).Distinct where
  arguments := Assoc.nodup_keys_put distinct.arguments id w
  relationsOf kind := by
    rw [relationsOf_declareArgument]
    exact distinct.relationsOf kind

theorem Distinct.declareRelation (distinct : f.Distinct) (key : RelationKey)
    (w : Option Binary64) : (f.declareRelation key w).Distinct where
  arguments := by
    rw [arguments_declareRelation]
    exact distinct.arguments
  relationsOf kind := by
    rw [relationsOf_declareRelation]
    split
    · exact Assoc.nodup_keys_put (distinct.relationsOf kind) _ w
    · exact distinct.relationsOf kind

/-- A framework as a description can say it. -/
structure Proper (f : Framework) : Prop extends f.Distinct where
  /-- Identifiers are canonical. -/
  canonical : ∀ id ∈ f.arguments.keys, IsCanonical id
  /-- A relation joins declared arguments. -/
  joined : ∀ key ∈ f.relations.keys,
    key.source ∈ f.arguments.keys ∧ key.target ∈ f.arguments.keys

theorem mem_declareRelation {e : RelationKey × Option Binary64}
    (h : e ∈ (f.declareRelation key w).relations) : e = (key, w) ∨ e ∈ f.relations := by
  cases e with
  | mk k v =>
    rw [mem_relations_iff, relationsOf_declareRelation] at h
    split at h
    · next hkind =>
      refine (Assoc.mem_put h).imp (fun heq => ?_) mem_relations_iff.2
      cases k
      cases key
      cases hkind
      cases heq
      rfl
    · exact Or.inr (mem_relations_iff.2 h)

/-! ## Frameworks from entries -/

/-- The framework in which some arguments and then some relations are declared. -/
def ofEntries (arguments : Assoc String (Option Binary64))
    (relations : Assoc RelationKey (Option Binary64)) : Framework :=
  relations.foldl (fun f e => f.declareRelation e.1 e.2)
    (arguments.foldl (fun f e => f.declareArgument e.1 e.2) {})

/-- The ends of the entries of a kind, with their weights. -/
def endsOf (kind : RelationKind) (relations : Assoc RelationKey (Option Binary64)) :
    Assoc Ends (Option Binary64) :=
  (relations.filter (·.1.kind = kind)).map fun e => ((e.1.source, e.1.target), e.2)

section OfEntries

variable {arguments : Assoc String (Option Binary64)}
  {relations : Assoc RelationKey (Option Binary64)}

theorem foldl_declareArgument (entries : Assoc String (Option Binary64)) (f : Framework) :
    entries.foldl (fun f e => f.declareArgument e.1 e.2) f =
      { f with arguments := entries.foldl (fun l e => l.put e.1 e.2) f.arguments } := by
  induction entries generalizing f with
  | nil => rfl
  | cons e entries ih =>
    rw [List.foldl_cons, List.foldl_cons, ih]
    rfl

theorem arguments_foldl_declareRelation (entries : Assoc RelationKey (Option Binary64))
    (f : Framework) :
    (entries.foldl (fun f e => f.declareRelation e.1 e.2) f).arguments = f.arguments := by
  induction entries generalizing f with
  | nil => rfl
  | cons e entries ih => rw [List.foldl_cons, ih, arguments_declareRelation]

theorem relationsOf_foldl_declareRelation (entries : Assoc RelationKey (Option Binary64))
    (f : Framework) (kind : RelationKind) :
    (entries.foldl (fun f e => f.declareRelation e.1 e.2) f).relationsOf kind =
      (endsOf kind entries).foldl (fun l e => l.put e.1 e.2) (f.relationsOf kind) := by
  induction entries generalizing f with
  | nil => rfl
  | cons e entries ih =>
    rw [List.foldl_cons, ih, relationsOf_declareRelation, endsOf, endsOf, List.filter_cons]
    by_cases hk : e.1.kind = kind
    · simp [hk]
    · simp [hk]

theorem mem_endsOf_iff {kind : RelationKind} {s t : String} :
    ((s, t), w) ∈ endsOf kind relations ↔ (⟨kind, s, t⟩, w) ∈ relations := by
  constructor
  · intro hmem
    obtain ⟨⟨⟨k, s', t'⟩, w'⟩, he, heq⟩ := List.mem_map.1 hmem
    obtain ⟨hentry, hk⟩ := List.mem_filter.1 he
    cases heq
    cases of_decide_eq_true hk
    exact hentry
  · intro hmem
    exact List.mem_map.2 ⟨_, List.mem_filter.2 ⟨hmem, decide_eq_true rfl⟩, rfl⟩

theorem nodup_keys_endsOf (hr : relations.keys.Nodup) (kind : RelationKind) :
    (endsOf kind relations).keys.Nodup := by
  rw [Assoc.keys, endsOf, List.map_map]
  have hpair := (List.pairwise_map.1 hr).sublist (List.filter_sublist (p := (·.1.kind = kind)))
  refine List.pairwise_map.2 (hpair.imp_of_mem ?_)
  intro d e hd he hne heq
  have hkind := (of_decide_eq_true (List.mem_filter.1 hd).2).trans
    (of_decide_eq_true (List.mem_filter.1 he).2).symm
  have hends := Prod.mk.inj heq
  cases hdk : d.1 with
  | mk k s t =>
    cases hek : e.1 with
    | mk k' s' t' =>
      rw [hdk, hek] at hkind hends hne
      cases hkind
      cases hends.1
      cases hends.2
      exact hne rfl

theorem arguments_ofEntries (ha : arguments.keys.Nodup) :
    (ofEntries arguments relations).arguments = arguments := by
  rw [ofEntries, arguments_foldl_declareRelation, foldl_declareArgument]
  exact Assoc.foldl_put_of_nodup arguments ha

theorem relationsOf_ofEntries (hr : relations.keys.Nodup) (kind : RelationKind) :
    (ofEntries arguments relations).relationsOf kind = endsOf kind relations := by
  rw [ofEntries, relationsOf_foldl_declareRelation, foldl_declareArgument]
  have hempty : relationsOf { ({} : Framework) with
      arguments := arguments.foldl (fun l e => l.put e.1 e.2) ({} : Framework).arguments } kind =
      [] := by cases kind <;> rfl
  rw [hempty]
  exact Assoc.foldl_put_of_nodup _ (nodup_keys_endsOf hr kind)

theorem distinct_ofEntries (ha : arguments.keys.Nodup) (hr : relations.keys.Nodup) :
    (ofEntries arguments relations).Distinct where
  arguments := by rwa [arguments_ofEntries ha]
  relationsOf kind := by
    rw [relationsOf_ofEntries hr]
    exact nodup_keys_endsOf hr kind

/-- Every relation is declared with its own weight. -/
theorem relations_get?_ofEntries (ha : arguments.keys.Nodup) (hr : relations.keys.Nodup)
    (key : RelationKey) : (ofEntries arguments relations).relations.get? key =
      relations.get? key := by
  rw [(distinct_ofEntries ha hr).get?_relations, relationsOf_ofEntries hr]
  cases hget : relations.get? key with
  | none =>
    rw [Assoc.get?_eq_none_iff] at hget ⊢
    intro hk
    obtain ⟨⟨⟨s, t⟩, w⟩, he, heq⟩ := List.mem_map.1 hk
    cases heq
    exact hget (Assoc.mem_keys_of_mem (mem_endsOf_iff.1 he))
  | some w =>
    rw [Assoc.get?_eq_some_iff (nodup_keys_endsOf hr _), mem_endsOf_iff]
    exact Assoc.mem_of_get? hget

theorem endsOf_withKind (attacks supports : Assoc Ends (Option Binary64)) (kind : RelationKind) :
    endsOf kind (withKind .attack attacks ++ withKind .support supports) =
      match kind with
      | .attack => attacks
      | .support => supports := by
  cases kind <;> simp [endsOf, withKind, List.filter_map, Function.comp_def]

/-- Only the order among the relations of a kind counts. -/
theorem ofEntries_congr {relations' : Assoc RelationKey (Option Binary64)}
    (h : ∀ kind, endsOf kind relations = endsOf kind relations') :
    ofEntries arguments relations = ofEntries arguments relations' := by
  refine ext_relationsOf ?_ fun kind => ?_
  · rw [ofEntries, ofEntries, arguments_foldl_declareRelation, arguments_foldl_declareRelation]
  · rw [ofEntries, ofEntries, relationsOf_foldl_declareRelation,
      relationsOf_foldl_declareRelation, h]

/-- A framework is made from its own entries. -/
theorem Distinct.ofEntries_eq (distinct : f.Distinct) : ofEntries f.arguments f.relations = f := by
  refine ext_relationsOf (arguments_ofEntries distinct.arguments) fun kind => ?_
  rw [relationsOf_ofEntries distinct.relations, Framework.relations, endsOf_withKind]
  cases kind <;> rfl

end OfEntries

/-! ## Comparison -/

/-- Two frameworks have the same structure if and only if the same arguments and the same
relations are declared in both, with equal weights. -/
theorem sameStructure_iff (hf : f.Distinct) (hg : g.Distinct) :
    f.sameStructure g = true ↔
      (∀ id, Option.Rel (fun v w => Binary64.optionEq v w = true) (f.arguments.get? id)
        (g.arguments.get? id)) ∧
      ∀ key, Option.Rel (fun v w => Binary64.optionEq v w = true) (f.relations.get? key)
        (g.relations.get? key) := by
  rw [sameStructure, Bool.and_eq_true, Assoc.sameEntries_iff hf.arguments hg.arguments,
    Assoc.sameEntries_iff hf.relations hg.relations]

theorem rel_optionEq_symm {a b : Option (Option Binary64)}
    (hab : Option.Rel (fun v w => Binary64.optionEq v w = true) a b) :
    Option.Rel (fun v w => Binary64.optionEq v w = true) b a := by
  cases hab with
  | none => exact .none
  | some heq =>
    rw [Binary64.optionEq_comm] at heq
    exact .some heq

theorem rel_optionEq_trans {a b c : Option (Option Binary64)}
    (hab : Option.Rel (fun v w => Binary64.optionEq v w = true) a b)
    (hbc : Option.Rel (fun v w => Binary64.optionEq v w = true) b c) :
    Option.Rel (fun v w => Binary64.optionEq v w = true) a c := by
  cases hab with
  | none => exact hbc
  | some heq =>
    cases hbc with
    | some heq' => exact .some (Binary64.optionEq_trans heq heq')

theorem sameStructure_symm (hf : f.Distinct) (hg : g.Distinct) (hfg : f.sameStructure g = true) :
    g.sameStructure f = true := by
  rw [sameStructure_iff hf hg] at hfg
  rw [sameStructure_iff hg hf]
  exact ⟨fun id => rel_optionEq_symm (hfg.1 id), fun key => rel_optionEq_symm (hfg.2 key)⟩

theorem sameStructure_trans (hf : f.Distinct) (hg : g.Distinct) (hh : h.Distinct)
    (hfg : f.sameStructure g = true) (hgh : g.sameStructure h = true) :
    f.sameStructure h = true := by
  rw [sameStructure_iff hf hg] at hfg
  rw [sameStructure_iff hg hh] at hgh
  rw [sameStructure_iff hf hh]
  exact ⟨fun id => rel_optionEq_trans (hfg.1 id) (hgh.1 id),
    fun key => rel_optionEq_trans (hfg.2 key) (hgh.2 key)⟩

/-- A framework whose weights are numbers. -/
structure Weighed (f : Framework) : Prop where
  /-- The weights of arguments are numbers. -/
  arguments : ∀ e ∈ f.arguments, Binary64.IsNumber e.2
  /-- The weights of relations are numbers. -/
  relations : ∀ e ∈ f.relations, Binary64.IsNumber e.2

/-- A framework has the structure of itself if all its weights are numbers. -/
theorem sameStructure_self (hf : f.Distinct) (weighed : f.Weighed) :
    f.sameStructure f = true := by
  rw [sameStructure_iff hf hf]
  constructor
  · intro id
    cases hget : f.arguments.get? id with
    | none => exact .none
    | some w => exact .some (Binary64.optionEq_self (weighed.arguments _ (Assoc.mem_of_get? hget)))
  · intro key
    cases hget : f.relations.get? key with
    | none => exact .none
    | some w => exact .some (Binary64.optionEq_self (weighed.relations _ (Assoc.mem_of_get? hget)))

end Framework

end Argumentation
