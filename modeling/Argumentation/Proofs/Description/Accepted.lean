import Argumentation.Proofs.Description.Language
import Argumentation.Proofs.Framework.Indexed
import Argumentation.Proofs.Text.Lowercase

/-!
# What accepted descriptions say

The framework of an accepted description declares nothing twice, its identifiers are
canonical and valid, its weights lie in their ranges, and its relations join declared
arguments (`parse_meets`).  So it can be reconciled with any graph, and every weight is a
number that equals itself.  Hence the framework equals itself also when its weights are compared as
numbers, and since it leaves no choice for its indices they find the same at the same places
(`Framework.Determined`).

A statement that is accepted adds one entry to the framework, of which all this holds, and the
framework is built by such statements (`meets_framework`).
-/

namespace Argumentation

/-! ## Weights in their range -/

theorem isNumber_of_checkWeight {limits : Limits} {kind : WeightKind} {w : Option Binary64}
    (h : checkWeight limits kind w = .ok ()) : Binary64.IsNumber w := by
  intro x hx
  rw [hx, checkWeight] at h
  cases hnan : x.isNan with
  | false => rfl
  | true => simp [hnan] at h

theorem checkWeight_weightOf {limits : Limits} {kind : WeightKind} {raw : Option String}
    (h : ∃ w, validateWeight limits kind raw = .ok w) :
    checkWeight limits kind (Description.weightOf limits kind raw) = .ok () := by
  unfold Description.weightOf
  cases raw with
  | none => rfl
  | some text =>
    obtain ⟨w, hw⟩ := h
    rw [hw]
    unfold validateWeight at hw
    simp only at hw
    cases hread : Binary64.ofText? (Text.trim text) with
    | none =>
      rw [hread] at hw
      cases hw
    | some x =>
      simp only [hread] at hw
      cases hcheck : checkWeight limits kind (some x) with
      | error e =>
        rw [hcheck] at hw
        cases hw
      | ok u =>
        rw [hcheck] at hw
        cases hw
        exact hcheck

namespace Framework

/-- A framework that keeps to limits. -/
structure Meets (limits : Limits) (f : Framework) : Prop extends f.Proper where
  /-- Identifiers are valid. -/
  valid : ∀ id ∈ f.arguments.keys, validateIdentifier limits id = .ok ()
  /-- The weights of arguments lie in their range. -/
  nodeWeights : ∀ e ∈ f.arguments, checkWeight limits .node e.2 = .ok ()
  /-- The weights of relations lie in their range. -/
  edgeWeights : ∀ e ∈ f.relations, checkWeight limits .edge e.2 = .ok ()

theorem Meets.weighed {limits : Limits} {f : Framework} (meets : f.Meets limits) : f.Weighed where
  arguments e he := isNumber_of_checkWeight (meets.nodeWeights e he)
  relations e he := isNumber_of_checkWeight (meets.edgeWeights e he)

theorem Meets.sameStructure_self {limits : Limits} {f : Framework} (meets : f.Meets limits) :
    f.sameStructure f = true :=
  Framework.sameStructure_self meets.toDistinct meets.weighed

/-! ## Frameworks that equal themselves -/

theorem sameList_self {κ : Type} [DecidableEq κ] {l : Assoc κ (Option Binary64)}
    (h : ∀ e ∈ l, Binary64.IsNumber e.2) : sameList l l = true := by
  induction l with
  | nil => rfl
  | cons e l ih =>
    rw [sameList, Binary64.optionEq_self (h e List.mem_cons_self),
      ih fun d hd => h d (List.mem_cons_of_mem _ hd)]
    simp

/-- Whether a framework can be indexed, in one way only, and equals itself as indexed. -/
structure Determined (f : Framework) : Prop where
  /-- There are indices. -/
  indexed : ∃ x : IndexedFramework, x.Represents f
  /-- Other indices make no difference. -/
  same : ∀ x y : IndexedFramework, x.Represents f → y.Represents f → x.Same y

theorem Meets.numEq_self {limits : Limits} {f : Framework} (meets : f.Meets limits) :
    f.numEq f = true := by
  have hrelations (kind : RelationKind) : sameList (f.relationsOf kind) (f.relationsOf kind) := by
    refine sameList_self fun e he => ?_
    have hmem : ((⟨kind, e.1.1, e.1.2⟩, e.2) : RelationKey × Option Binary64) ∈ f.relations :=
      mem_relations_iff.2 he
    exact isNumber_of_checkWeight (meets.edgeWeights _ hmem)
  rw [numEq, Bool.and_eq_true, Bool.and_eq_true]
  refine ⟨⟨?_, hrelations .attack⟩, hrelations .support⟩
  exact sameList_self fun e he => isNumber_of_checkWeight (meets.nodeWeights e he)

theorem Meets.determined {limits : Limits} {f : Framework} (meets : f.Meets limits) :
    f.Determined where
  indexed := by
    have rep := IndexedFramework.represents_ofEntries f.arguments f.relations
    rw [meets.toDistinct.ofEntries_eq] at rep
    exact ⟨_, rep⟩
  same _ _ hx hy := hx.same hy meets.numEq_self

end Framework

namespace Description

variable {limits : Limits} {ids : List String} {f : Framework}

/-! ## Frameworks of accepted statements -/

/-- A framework whose relations join some identifiers, of which not all need be declared. -/
structure Partial (limits : Limits) (ids : List String) (f : Framework) : Prop
    extends f.Distinct where
  /-- Arguments have canonical valid identifiers and weights in their range. -/
  arguments_meet : ∀ e ∈ f.arguments, IsCanonical e.1 ∧
    validateIdentifier limits e.1 = .ok () ∧ checkWeight limits .node e.2 = .ok ()
  /-- Relations join some of the identifiers and have weights in their range. -/
  relations_meet : ∀ e ∈ f.relations, e.1.source ∈ ids ∧ e.1.target ∈ ids ∧
    checkWeight limits .edge e.2 = .ok ()

theorem Partial.declareArgument {st : Statement} (h : Partial limits ids f)
    (accepts : Accepts limits ids st) : Partial limits ids (declareArgument limits f st) := by
  cases st with
  | argument id weight =>
    obtain ⟨hid, hweight⟩ := accepts
    refine ⟨h.toDistinct.declareArgument _ _, ?_, h.relations_meet⟩
    intro e he
    cases Assoc.mem_put he with
    | inl heq =>
      rw [heq]
      exact ⟨isCanonical_canonicalId id, validateIdentifier_canonicalId hid,
        checkWeight_weightOf hweight⟩
    | inr hmem => exact h.arguments_meet e hmem
  | relation kind source target weight => exact h
  | unrecognized => exact h

theorem Partial.declareRelation {st : Statement} (kind : RelationKind) (h : Partial limits ids f)
    (accepts : Accepts limits ids st) : Partial limits ids (declareRelation limits kind f st) := by
  cases st with
  | relation k source target weight =>
    obtain ⟨-, -, hweight, hs, ht⟩ := accepts
    rw [Description.declareRelation]
    split
    · refine ⟨h.toDistinct.declareRelation _ _, ?_, ?_⟩
      · rw [Framework.arguments_declareRelation]
        exact h.arguments_meet
      · intro e he
        cases Framework.mem_declareRelation he with
        | inl heq =>
          rw [heq]
          exact ⟨hs, ht, checkWeight_weightOf hweight⟩
        | inr hmem => exact h.relations_meet e hmem
    · exact h
  | argument id weight => exact h
  | unrecognized => exact h

theorem partial_foldl (step : Framework → Statement → Framework) {ss : List Statement}
    (hstep : ∀ f, Partial limits ids f → ∀ st ∈ ss, Partial limits ids (step f st))
    (h : Partial limits ids f) : Partial limits ids (ss.foldl step f) := by
  induction ss generalizing f with
  | nil => exact h
  | cons st ss ih =>
    exact ih (fun f h st hst => hstep f h st (List.mem_cons_of_mem _ hst))
      (hstep f h st List.mem_cons_self)

theorem partial_empty : Partial limits ids {} where
  toDistinct := Framework.distinct_empty
  arguments_meet e he := by cases he
  relations_meet e he := by cases he

/-- Statements that are accepted yield a framework that keeps to the limits. -/
theorem meets_framework {ss : List Statement} (h : InLanguage limits ss) :
    (framework limits ss).Meets limits := by
  have hpartial : Partial limits (argumentEntries limits ss).keys (framework limits ss) := by
    have harguments := partial_foldl (declareArgument limits)
      (fun f hf st hst => hf.declareArgument (h st hst)) partial_empty
    have hattacks := partial_foldl (declareRelation limits .attack)
      (fun f hf st hst => hf.declareRelation .attack (h st hst)) harguments
    exact partial_foldl (declareRelation limits .support)
      (fun f hf st hst => hf.declareRelation .support (h st hst)) hattacks
  have hdeclared (id : String) (hid : id ∈ (argumentEntries limits ss).keys) :
      id ∈ (framework limits ss).arguments.keys := by
    rw [(says_framework limits ss).arguments.keys_eq, List.mem_eraseDups]
    exact hid
  refine ⟨⟨hpartial.toDistinct, ?_, ?_⟩, ?_, ?_, ?_⟩
  · intro id hid
    obtain ⟨e, he, rfl⟩ := List.mem_map.1 hid
    exact (hpartial.arguments_meet e he).1
  · intro key hkey
    obtain ⟨e, he, rfl⟩ := List.mem_map.1 hkey
    obtain ⟨hs, ht, -⟩ := hpartial.relations_meet e he
    exact ⟨hdeclared _ hs, hdeclared _ ht⟩
  · intro id hid
    obtain ⟨e, he, rfl⟩ := List.mem_map.1 hid
    exact (hpartial.arguments_meet e he).2.1
  · exact fun e he => (hpartial.arguments_meet e he).2.2
  · exact fun e he => (hpartial.relations_meet e he).2.2

/-- What an accepted description says keeps to the limits. -/
theorem parse_meets {text : String} (h : parse limits text = .ok f) : f.Meets limits := by
  rw [parse_eq] at h
  split at h
  · next hds =>
    cases h
    exact meets_framework (diagnostics_eq_nil_iff_inLanguage.1 hds)
  · cases h

end Description

end Argumentation
