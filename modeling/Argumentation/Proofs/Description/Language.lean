import Argumentation.Proofs.Description.Faults
import Argumentation.Proofs.Framework.Indexed

/-!
# The language of descriptions

A description is in the language if each of its lines is a statement with valid fields and each
end of a relation is declared by some line, before or after it (`InLanguage`).  It then says, for
each argument and each relation, what the last line about it says, in the order in which each was
first mentioned (`Says`).

A description is accepted if and only if it is in the language, and its framework is the one
that says so (`parse_eq_ok_iff`).  Every other description is rejected with all that is wrong
with it and nothing else (`parse_eq_error_iff`).
-/

namespace Argumentation

namespace Description

variable {limits : Limits} {ids : List String} {ls : List Line} {ss : List Statement}
  {f g : Framework}

/-! ## The language -/

/-- The statements of a description. -/
def statements (text : String) : List Statement := (lines text).map fun l => .ofLine l.text

/-- The entry of a statement about an argument, under its canonical identifier. -/
def argumentOf? (limits : Limits) : Statement → Option (String × Option Binary64)
  | .argument id weight => some (canonicalId id, weightOf limits .node weight)
  | _ => none

/-- The entry of a statement about a relation of a kind, under its canonical ends. -/
def relationOf? (limits : Limits) (kind : RelationKind) :
    Statement → Option (Ends × Option Binary64)
  | .relation k source target weight =>
    if k = kind then
      some ((canonicalId source, canonicalId target), weightOf limits .edge weight)
    else none
  | _ => none

/-- What some statements say about arguments, one entry for each time. -/
def argumentEntries (limits : Limits) (ss : List Statement) : Assoc String (Option Binary64) :=
  ss.filterMap (argumentOf? limits)

/-- What some statements say about relations of a kind, one entry for each time. -/
def relationEntries (limits : Limits) (kind : RelationKind) (ss : List Statement) :
    Assoc Ends (Option Binary64) :=
  ss.filterMap (relationOf? limits kind)

/-- What some statements say about relations, attacks first. -/
def keyedEntries (limits : Limits) (ss : List Statement) :
    Assoc RelationKey (Option Binary64) :=
  Framework.withKind .attack (relationEntries limits .attack ss) ++
    Framework.withKind .support (relationEntries limits .support ss)

/-- Whether statements make up a description that is accepted. -/
def InLanguage (limits : Limits) (ss : List Statement) : Prop :=
  ∀ st ∈ ss, Accepts limits (argumentEntries limits ss).keys st

/-- Whether a framework is what some statements say. -/
structure Says (limits : Limits) (ss : List Statement) (f : Framework) : Prop where
  /-- It has their arguments. -/
  arguments : Assoc.Records f.arguments (argumentEntries limits ss)
  /-- It has their relations of each kind. -/
  relationsOf : ∀ kind, Assoc.Records (f.relationsOf kind) (relationEntries limits kind ss)

/-! ## What is declared -/

/-- If all identifiers are valid, then all arguments are declared. -/
theorem declared_eq_keys (h : ∀ l ∈ ls, Accepts limits ids (.ofLine l.text)) :
    declared limits ls =
      (argumentEntries limits (ls.map fun l => .ofLine l.text)).keys := by
  rw [declared, argumentEntries, Assoc.keys, List.filterMap_map, List.map_filterMap]
  refine List.filterMap_congr fun l hl => ?_
  have accepts := h l hl
  rw [Function.comp_apply]
  cases hst : Statement.ofLine l.text with
  | argument id weight =>
    rw [hst] at accepts
    rw [declared?, if_pos (isIdentifier_iff.2 accepts.1)]
    rfl
  | relation kind source target weight => rfl
  | unrecognized => rfl

/-- Nothing is wrong with a description if and only if it is in the language. -/
theorem diagnostics_eq_nil_iff_inLanguage {text : String} :
    diagnostics limits (lines text) = [] ↔ InLanguage limits (statements text) := by
  rw [diagnostics_eq_nil_iff, InLanguage, statements, List.forall_mem_map]
  constructor
  · intro h
    have accepts (l : Line) (hl : l ∈ lines text) := faultless_iff.1 (h l hl)
    rwa [declared_eq_keys accepts] at accepts
  · intro h l hl
    rw [faultless_iff, declared_eq_keys h]
    exact h l hl

/-! ## What is said -/

theorem framework_eq_ofEntries (limits : Limits) (ss : List Statement) :
    framework limits ss =
      Framework.ofEntries (argumentEntries limits ss) (keyedEntries limits ss) := by
  have harguments (f : Framework) : ss.foldl (declareArgument limits) f =
      (argumentEntries limits ss).foldl (fun f e => f.declareArgument e.1 e.2) f := by
    rw [argumentEntries, List.foldl_filterMap]
    refine List.foldl_ext _ _ _ fun f st _ => ?_
    cases st <;> rfl
  have hrelations (kind : RelationKind) (f : Framework) :
      ss.foldl (declareRelation limits kind) f =
        (Framework.withKind kind (relationEntries limits kind ss)).foldl
          (fun f e => f.declareRelation e.1 e.2) f := by
    rw [relationEntries, Framework.withKind, List.foldl_map, List.foldl_filterMap]
    refine List.foldl_ext _ _ _ fun f st _ => ?_
    cases st with
    | relation k source target weight =>
      rw [declareRelation, relationOf?]
      split <;> rfl
    | argument id weight => rfl
    | unrecognized => rfl
  rw [framework, Framework.ofEntries, keyedEntries, List.foldl_append, harguments,
    hrelations .attack, hrelations .support]

theorem says_framework (limits : Limits) (ss : List Statement) :
    Says limits ss (framework limits ss) := by
  rw [framework_eq_ofEntries, Framework.ofEntries, Framework.foldl_declareArgument]
  constructor
  · rw [Framework.arguments_foldl_declareRelation]
    exact Assoc.records_foldl_put _
  · intro kind
    rw [Framework.relationsOf_foldl_declareRelation, keyedEntries, Framework.endsOf_withKind]
    cases kind with
    | attack => exact Assoc.records_foldl_put _
    | support => exact Assoc.records_foldl_put _

/-- Some statements say one framework. -/
theorem Says.eq (hf : Says limits ss f) (hg : Says limits ss g) : f = g :=
  Framework.ext_relationsOf (hf.arguments.eq hg.arguments) fun kind =>
    (hf.relationsOf kind).eq (hg.relationsOf kind)

/-- A description is accepted if and only if it is in the language.  Its framework is the one
that has what its statements say, which is also what comes of declaring it by way of indices. -/
theorem parse_eq_ok_iff (limits : Limits) (text : String) :
    ((∃ f, parse limits text = .ok f) ↔ InLanguage limits (statements text)) ∧
      (∀ f, parse limits text = .ok f ↔
        InLanguage limits (statements text) ∧ Says limits (statements text) f) ∧
      ∀ f, Says limits (statements text) f →
        (IndexedFramework.ofEntries (argumentEntries limits (statements text))
          (keyedEntries limits (statements text))).Represents f := by
  have hsays := says_framework limits (statements text)
  have hok (f : Framework) : parse limits text = .ok f ↔
      InLanguage limits (statements text) ∧ Says limits (statements text) f := by
    rw [parse_eq, ← diagnostics_eq_nil_iff_inLanguage]
    split
    · next hnil =>
      rw [Except.ok.injEq, and_iff_right hnil]
      constructor
      · rintro rfl
        exact hsays
      · exact hsays.eq
    · next hne =>
      constructor
      · exact fun h => nomatch h
      · exact fun h => absurd h.1 hne
  refine ⟨⟨fun ⟨f, hf⟩ => ((hok f).1 hf).1, fun h => ⟨_, (hok _).2 ⟨h, hsays⟩⟩⟩, hok, ?_⟩
  intro f hf
  rw [← hsays.eq hf, framework_eq_ofEntries]
  exact IndexedFramework.represents_ofEntries _ _

/-- A relation stands in front of the arguments that it names, and an argument is declared again
without its weight. -/
theorem parse_eq_ok_redeclared :
    InLanguage {} (statements "att(B, a, 0.5).\n\narg(a, 0.25).\narg(b).\n arg( A ).") ∧
      Says {} (statements "att(B, a, 0.5).\n\narg(a, 0.25).\narg(b).\n arg( A ).")
        { arguments := [("a", none), ("b", none)]
          attacks := [(("b", "a"), Binary64.ofText? "0.5")] } :=
  ((parse_eq_ok_iff {} _).2.1 _).1 (by decide +kernel)

/-! ## What is told -/

theorem Line.mem_diagnose_iff {l : Line} {faults : List Fault} {d : Diagnostic} :
    d ∈ l.diagnose faults ↔ d.line = l.number ∧ d.fault ∈ faults := by
  rw [diagnose, List.mem_map]
  constructor
  · rintro ⟨fault, hmem, rfl⟩
    exact ⟨rfl, hmem⟩
  · rintro ⟨hline, hmem⟩
    exact ⟨d.fault, hmem, by rw [← hline]⟩

/-- A diagnostic is a fault of its own line, and every fault of a line is a diagnostic. -/
theorem mem_diagnostics_iff {d : Diagnostic} :
    d ∈ diagnostics limits ls ↔ ∃ l ∈ ls, d.line = l.number ∧
      (d.fault ∈ ownFaults limits l.text (.ofLine l.text) ∨
        ∃ kind, d.fault ∈ endFaults limits (declared limits ls) kind (.ofLine l.text)) := by
  have hkinds (l : Line) :
      (∃ kind, d.fault ∈ endFaults limits (declared limits ls) kind (.ofLine l.text)) ↔
        d.fault ∈ endFaults limits (declared limits ls) .attack (.ofLine l.text) ∨
          d.fault ∈ endFaults limits (declared limits ls) .support (.ofLine l.text) := by
    constructor
    · rintro ⟨kind, hmem⟩
      cases kind with
      | attack => exact Or.inl hmem
      | support => exact Or.inr hmem
    · rintro (hmem | hmem)
      · exact ⟨_, hmem⟩
      · exact ⟨_, hmem⟩
  simp only [diagnostics, List.mem_append, List.mem_flatMap, Line.mem_diagnose_iff, hkinds,
    or_assoc, and_or_left, exists_or]

/-- Lines are counted from one. -/
theorem map_number_lines (text : String) :
    (lines text).map (·.number) = List.range' 1 (lines text).length := by
  refine List.ext_getElem (by simp) fun i hi _ => ?_
  simp [lines, Nat.add_comm]

/-- A description that is rejected is told all that is wrong with it, line by line, and nothing
else. -/
theorem parse_eq_error_iff (limits : Limits) (text : String) :
    (∀ ds, parse limits text = .error ds ↔ ds ≠ [] ∧ ds = diagnostics limits (lines text)) ∧
      (∀ d, d ∈ diagnostics limits (lines text) ↔ ∃ l ∈ lines text, d.line = l.number ∧
        (d.fault ∈ ownFaults limits l.text (.ofLine l.text) ∨
          ∃ kind, d.fault ∈
            endFaults limits (declared limits (lines text)) kind (.ofLine l.text))) ∧
      (lines text).map (·.number) = List.range' 1 (lines text).length := by
  refine ⟨fun ds => ?_, fun d => mem_diagnostics_iff, map_number_lines text⟩
  rw [parse_eq]
  split
  · next hnil =>
    rw [hnil]
    constructor
    · exact fun h => nomatch h
    · exact fun h => absurd h.2 h.1
  · next hne =>
    rw [Except.error.injEq]
    constructor
    · rintro rfl
      exact ⟨hne, rfl⟩
    · exact fun h => h.2.symm

-- The weight of `a` is wrong and yet `a` is declared.
example : parse {} "arg(a, x).\nsupport(a, b, y).\natt(a+, c)." = .error
    [⟨1, .invalid .notANumber⟩, ⟨2, .invalid .notANumber⟩, ⟨3, .invalid .invalidIdentifierChars⟩,
      ⟨3, .undefinedTarget .attack "c"⟩, ⟨2, .undefinedTarget .support "b"⟩] := by
  decide +kernel

end Description

end Argumentation
