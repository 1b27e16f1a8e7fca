import Argumentation.Description.Parser
import Argumentation.Proofs.Framework

/-!
# What a description has wrong

What is wrong with a description, and what it says if nothing is wrong, can be told line by line
without any draft: `diagnostics` and `framework`.  A fault of a line depends on the other lines
only by the identifiers that they declare.

A reader that goes through the lines once and then through the relations that have waited comes
to the same (`parse_eq`).  Each line that is read adds what it has wrong by itself
(`readLine_eq`), and each relation that is settled what its ends have wrong (`settle_eq`).  Since
no relation changes which arguments there are, it does not matter that relations are declared
while others still wait.
-/

namespace Argumentation

namespace Description

variable {limits : Limits}

/-! ## Faults -/

/-- The fault of a check, if it fails. -/
def faultOf {α : Type} : Except ValidationError α → List Fault
  | .ok _ => []
  | .error e => [.invalid e]

/-- Whether a text is a valid identifier. -/
def isIdentifier (limits : Limits) (raw : String) : Bool :=
  match validateIdentifier limits raw with
  | .ok _ => true
  | .error _ => false

/-- The faults that a statement has by itself. -/
def ownFaults (limits : Limits) (text : String) : Statement → List Fault
  | .argument id weight =>
    faultOf (validateIdentifier limits id) ++ faultOf (validateWeight limits .node weight)
  | .relation _ source target weight =>
    faultOf (validateIdentifier limits source) ++ faultOf (validateIdentifier limits target) ++
      faultOf (validateWeight limits .edge weight)
  | .unrecognized => [.notAStatement text]

/-- The identifier that a statement declares. -/
def declared? (limits : Limits) : Statement → Option String
  | .argument id _ => if isIdentifier limits id then some (canonicalId id) else none
  | _ => none

/-- The identifiers that some lines declare. -/
def declared (limits : Limits) (ls : List Line) : List String :=
  ls.filterMap fun l => declared? limits (.ofLine l.text)

/-- The ends of a statement of a kind that are valid but not declared. -/
def endFaults (limits : Limits) (ids : List String) (kind : RelationKind) :
    Statement → List Fault
  | .relation k source target _ =>
    if k = kind then
      (if isIdentifier limits source ∧ canonicalId source ∉ ids then
        [.undefinedSource kind (canonicalId source)] else []) ++
      (if isIdentifier limits target ∧ canonicalId target ∉ ids then
        [.undefinedTarget kind (canonicalId target)] else [])
    else []
  | _ => []

/-- Faults as diagnostics of a line. -/
def Line.diagnose (l : Line) (faults : List Fault) : List Diagnostic :=
  faults.map fun f => ⟨l.number, f⟩

/-- The diagnostics of some lines. -/
def diagnostics (limits : Limits) (ls : List Line) : List Diagnostic :=
  let ids := declared limits ls
  let ends (kind : RelationKind) (l : Line) : List Diagnostic :=
    l.diagnose (endFaults limits ids kind (.ofLine l.text))
  (ls.flatMap fun l => l.diagnose (ownFaults limits l.text (.ofLine l.text))) ++
    ls.flatMap (ends .attack) ++ ls.flatMap (ends .support)

/-! ## The framework -/

/-- The weight of a field without faults. -/
def weightOf (limits : Limits) (kind : WeightKind) (raw : Option String) : Option Binary64 :=
  match validateWeight limits kind raw with
  | .ok w => w
  | .error _ => none

/-- The framework with the argument of a statement. -/
def declareArgument (limits : Limits) (f : Framework) : Statement → Framework
  | .argument id weight => f.declareArgument (canonicalId id) (weightOf limits .node weight)
  | _ => f

/-- The framework with the relation of a statement of a kind. -/
def declareRelation (limits : Limits) (kind : RelationKind) (f : Framework) :
    Statement → Framework
  | .relation k source target weight =>
    if k = kind then
      f.declareRelation ⟨kind, canonicalId source, canonicalId target⟩
        (weightOf limits .edge weight)
    else f
  | _ => f

/-- The framework of statements without faults. -/
def framework (limits : Limits) (ss : List Statement) : Framework :=
  let f : Framework := ss.foldl (declareArgument limits) {}
  let f := ss.foldl (declareRelation limits .attack) f
  ss.foldl (declareRelation limits .support) f

/-! ## Statements without faults -/

/-- A statement that has no fault among some declared identifiers. -/
def Faultless (limits : Limits) (ids : List String) (text : String) (st : Statement) : Prop :=
  ownFaults limits text st = [] ∧ ∀ kind, endFaults limits ids kind st = []

theorem diagnostics_eq_nil_iff {ls : List Line} :
    diagnostics limits ls = [] ↔
      ∀ l ∈ ls, Faultless limits (declared limits ls) l.text (.ofLine l.text) := by
  simp only [diagnostics, Line.diagnose, Faultless, List.append_eq_nil_iff,
    List.flatMap_eq_nil_iff, List.map_eq_nil_iff]
  constructor
  · rintro ⟨⟨hown, hattack⟩, hsupport⟩ l hl
    refine ⟨hown l hl, fun kind => ?_⟩
    cases kind with
    | attack => exact hattack l hl
    | support => exact hsupport l hl
  · intro h
    exact ⟨⟨fun l hl => (h l hl).1, fun l hl => (h l hl).2 .attack⟩,
      fun l hl => (h l hl).2 .support⟩

theorem faultOf_eq_nil_iff {α : Type} {x : Except ValidationError α} :
    faultOf x = [] ↔ ∃ a, x = .ok a := by
  cases x with
  | error e => simp [faultOf]
  | ok a => simp [faultOf]

theorem isIdentifier_iff {raw : String} :
    isIdentifier limits raw = true ↔ validateIdentifier limits raw = .ok () := by
  unfold isIdentifier
  cases validateIdentifier limits raw with
  | error e => simp
  | ok u => simp

theorem exists_ok_iff {x : Except ValidationError Unit} : (∃ u, x = .ok u) ↔ x = .ok () :=
  ⟨fun ⟨(), h⟩ => h, fun h => ⟨(), h⟩⟩

/-- Whether a statement is accepted among declared identifiers: its fields are valid, and the
ends of a relation are declared. -/
def Accepts (limits : Limits) (ids : List String) : Statement → Prop
  | .argument id weight =>
    validateIdentifier limits id = .ok () ∧ ∃ w, validateWeight limits .node weight = .ok w
  | .relation _ source target weight =>
    validateIdentifier limits source = .ok () ∧ validateIdentifier limits target = .ok () ∧
      (∃ w, validateWeight limits .edge weight = .ok w) ∧
      canonicalId source ∈ ids ∧ canonicalId target ∈ ids
  | .unrecognized => False

/-- A statement is accepted if and only if it has no fault. -/
theorem faultless_iff {ids : List String} {text : String} {st : Statement} :
    Faultless limits ids text st ↔ Accepts limits ids st := by
  cases st with
  | argument id weight =>
    simp only [Faultless, Accepts, ownFaults, endFaults, List.append_eq_nil_iff,
      faultOf_eq_nil_iff, exists_ok_iff, implies_true, and_true]
  | relation kind source target weight =>
    simp only [Faultless, Accepts, ownFaults, List.append_eq_nil_iff, faultOf_eq_nil_iff,
      exists_ok_iff, and_assoc]
    refine and_congr_right fun hsource => and_congr_right fun htarget => and_congr_right fun _ => ?_
    have hs : isIdentifier limits source = true := isIdentifier_iff.2 hsource
    have ht : isIdentifier limits target = true := isIdentifier_iff.2 htarget
    -- Among the kinds only that of the relation itself has ends to look at.
    constructor
    · intro h
      have hends := h kind
      simp only [endFaults, if_true, hs, ht, true_and, List.append_eq_nil_iff, ite_eq_right_iff,
        List.cons_ne_nil, imp_false, not_not] at hends
      exact hends
    · rintro ⟨hsids, htids⟩ k
      simp [endFaults, hsids, htids]
  | unrecognized => simp [Faultless, Accepts, ownFaults]

/-! ## Reading lines -/

/-- The framework with the argument of a statement, if its identifier is valid. -/
def declareNamed (limits : Limits) (f : Framework) : Statement → Framework
  | .argument id weight =>
    if isIdentifier limits id then
      f.declareArgument (canonicalId id) (weightOf limits .node weight)
    else f
  | _ => f

/-- The relation of a statement that waits. -/
def pendingOf (limits : Limits) (kind : RelationKind) (line : Nat) : Statement → List Pending
  | .relation k source target weight =>
    if k = kind then
      [{ line
         key := ⟨kind, canonicalId source, canonicalId target⟩
         weight := weightOf limits .edge weight
         sourceValid := isIdentifier limits source
         targetValid := isIdentifier limits target
         weightValid := (validateWeight limits .edge weight).toBool }]
    else []
  | _ => []

/-- The relation of a line that waits. -/
def Line.pending (limits : Limits) (kind : RelationKind) (l : Line) : List Pending :=
  pendingOf limits kind l.number (.ofLine l.text)

namespace Draft

theorem check_eq {α : Type} (d : Draft) (l : Line) (c : Except ValidationError α) :
    d.check l.number c =
      ({ d with diagnostics := d.diagnostics ++ l.diagnose (faultOf c) }, c.toOption) := by
  cases c with
  | ok a => simp [check, faultOf, Line.diagnose, Except.toOption]
  | error e => rfl

theorem toBool_validateIdentifier (raw : String) :
    (validateIdentifier limits raw).toBool = isIdentifier limits raw := by
  unfold isIdentifier
  cases validateIdentifier limits raw <;> rfl

theorem join_validateWeight (kind : WeightKind) (raw : Option String) :
    (validateWeight limits kind raw).toOption.join = weightOf limits kind raw := by
  unfold weightOf
  cases validateWeight limits kind raw <;> rfl

theorem isSome_toOption {α : Type} (c : Except ValidationError α) :
    c.toOption.isSome = c.toBool := by
  cases c <;> rfl

/-- A line that is read adds what it declares, what waits and what it has wrong by itself. -/
theorem readLine_eq (d : Draft) (l : Line) :
    d.readLine limits l =
      { framework := declareNamed limits d.framework (.ofLine l.text)
        attacks := d.attacks ++ l.pending limits .attack
        supports := d.supports ++ l.pending limits .support
        diagnostics :=
          d.diagnostics ++ l.diagnose (ownFaults limits l.text (.ofLine l.text)) } := by
  unfold readLine Line.pending
  cases Statement.ofLine l.text with
  | argument id weight =>
    simp only [check_eq, isSome_toOption, toBool_validateIdentifier, join_validateWeight,
      declareNamed, pendingOf, ownFaults, List.append_nil, Line.diagnose, List.map_append,
      List.append_assoc]
    split <;> rfl
  | relation kind source target weight =>
    simp only [check_eq, isSome_toOption, toBool_validateIdentifier, join_validateWeight,
      declareNamed, pendingOf, ownFaults, Line.diagnose, List.map_append, List.append_assoc]
    cases kind with
    | attack => simp [hold]
    | support => simp [hold]
  | unrecognized =>
    simp [report, declareNamed, pendingOf, ownFaults, Line.diagnose]

theorem foldl_readLine (ls : List Line) (d : Draft) :
    ls.foldl (readLine limits) d =
      { framework :=
          (ls.map fun l => Statement.ofLine l.text).foldl (declareNamed limits) d.framework
        attacks := d.attacks ++ ls.flatMap (Line.pending limits .attack)
        supports := d.supports ++ ls.flatMap (Line.pending limits .support)
        diagnostics := d.diagnostics ++
          ls.flatMap fun l => l.diagnose (ownFaults limits l.text (.ofLine l.text)) } := by
  induction ls generalizing d with
  | nil => simp
  | cons l ls ih =>
    rw [List.foldl_cons, ih, readLine_eq]
    simp only [List.map_cons, List.foldl_cons, List.flatMap_cons, List.append_assoc]

end Draft

/-! ## Settling relations -/

namespace Pending

/-- The ends of a relation that are valid but not among some identifiers. -/
def faults (ids : List String) (p : Pending) : List Fault :=
  (if p.sourceValid ∧ p.key.source ∉ ids then
    [.undefinedSource p.key.kind p.key.source] else []) ++
  (if p.targetValid ∧ p.key.target ∉ ids then
    [.undefinedTarget p.key.kind p.key.target] else [])

/-- The framework with a relation, if nothing is wrong with it. -/
def declare (ids : List String) (f : Framework) (p : Pending) : Framework :=
  if p.sourceValid ∧ p.targetValid ∧ p.weightValid ∧ p.faults ids = [] then
    f.declareRelation p.key p.weight
  else f

theorem arguments_declare (ids : List String) (f : Framework) (p : Pending) :
    (p.declare ids f).arguments = f.arguments := by
  unfold declare
  split
  · exact Framework.arguments_declareRelation _ _ _
  · rfl

end Pending

namespace Draft

/-- A relation that is settled adds what its ends have wrong, and is declared if nothing is wrong
with it at all. -/
theorem settle_eq {d : Draft} {ids : List String}
    (hids : ∀ id, id ∈ d.framework.arguments.keys ↔ id ∈ ids) (p : Pending) :
    d.settle p = { d with
      framework := p.declare ids d.framework
      diagnostics := d.diagnostics ++ (p.faults ids).map fun f => ⟨p.line, f⟩ } := by
  have hlacks (valid : Bool) (id : String) :
      d.lacks valid id = decide (valid = true ∧ id ∉ ids) := by
    rw [lacks, Bool.eq_iff_iff, Bool.and_eq_true, Bool.not_eq_true', ← Bool.not_eq_true,
      Framework.containsArgument_iff, hids, decide_eq_true_eq]
  simp only [settle, hlacks, Pending.declare, Pending.faults]
  by_cases hs : p.sourceValid = true ∧ p.key.source ∉ ids
  · by_cases ht : p.targetValid = true ∧ p.key.target ∉ ids
    · simp [hs, ht, report]
    · simp [hs, ht, report]
  · by_cases ht : p.targetValid = true ∧ p.key.target ∉ ids
    · simp [hs, ht, report]
    · simp only [hs, ht, decide_false, Bool.not_false, Bool.and_true, Bool.and_eq_true,
        and_assoc, Bool.false_eq_true, if_false, List.append_nil, and_true, List.map_nil]
      split <;> rfl

theorem foldl_settle {ids : List String} (ps : List Pending) {d : Draft}
    (hids : ∀ id, id ∈ d.framework.arguments.keys ↔ id ∈ ids) :
    ps.foldl settle d = { d with
      framework := ps.foldl (Pending.declare ids) d.framework
      diagnostics := d.diagnostics ++
        ps.flatMap fun p => (p.faults ids).map fun f => ⟨p.line, f⟩ } := by
  induction ps generalizing d with
  | nil => simp
  | cons p ps ih =>
    rw [List.foldl_cons, settle_eq hids, ih]
    · simp only [List.foldl_cons, List.flatMap_cons, List.append_assoc]
    · intro id
      rw [Pending.arguments_declare]
      exact hids id

end Draft

/-! ## Reading descriptions -/

/-- What a statement that waits has wrong is what its ends have wrong. -/
theorem faults_pendingOf (ids : List String) (kind : RelationKind) (l : Line) :
    (l.pending limits kind).flatMap (fun p => (p.faults ids).map fun f => ⟨p.line, f⟩) =
      l.diagnose (endFaults limits ids kind (.ofLine l.text)) := by
  unfold Line.pending
  cases Statement.ofLine l.text with
  | argument id weight => rfl
  | relation k source target weight =>
    rw [pendingOf, endFaults]
    split
    · simp only [List.flatMap_cons, List.flatMap_nil, List.append_nil, Pending.faults,
        Line.diagnose]
    · rfl
  | unrecognized => rfl

theorem mem_keys_declareNamed (f : Framework) (st : Statement) (id : String) :
    id ∈ (declareNamed limits f st).arguments.keys ↔
      id ∈ f.arguments.keys ∨ declared? limits st = some id := by
  cases st with
  | argument raw weight =>
    rw [declareNamed, declared?]
    split
    · rw [Framework.declareArgument, Assoc.mem_keys_put, Option.some_inj, @eq_comm _ id]
    · simp
  | relation kind source target weight => simp [declareNamed, declared?]
  | unrecognized => simp [declareNamed, declared?]

/-- The arguments that are declared while lines are read are those that the lines declare. -/
theorem mem_keys_foldl_declareNamed (ls : List Line) (f : Framework) (id : String) :
    id ∈ ((ls.map fun l => Statement.ofLine l.text).foldl (declareNamed limits) f).arguments.keys ↔
      id ∈ f.arguments.keys ∨ id ∈ declared limits ls := by
  induction ls generalizing f with
  | nil => simp [declared]
  | cons l ls ih =>
    rw [List.map_cons, List.foldl_cons, ih, mem_keys_declareNamed, declared, declared, or_assoc,
      List.filterMap_cons]
    cases declared? limits (.ofLine l.text) with
    | none => simp
    | some id' => simp [eq_comm]

theorem foldl_declareNamed {ids : List String} {ls : List Line} (f : Framework)
    (h : ∀ l ∈ ls, Faultless limits ids l.text (.ofLine l.text)) :
    (ls.map fun l => Statement.ofLine l.text).foldl (declareNamed limits) f =
      (ls.map fun l => Statement.ofLine l.text).foldl (declareArgument limits) f := by
  rw [List.foldl_map, List.foldl_map]
  refine List.foldl_ext _ _ _ fun f l hl => ?_
  have accepts := faultless_iff.1 (h l hl)
  cases hst : Statement.ofLine l.text with
  | argument id weight =>
    rw [hst] at accepts
    rw [declareNamed, if_pos (isIdentifier_iff.2 accepts.1), declareArgument]
  | relation kind source target weight => rfl
  | unrecognized => rfl

theorem foldl_declare {ids : List String} {ls : List Line} (kind : RelationKind) (f : Framework)
    (h : ∀ l ∈ ls, Faultless limits ids l.text (.ofLine l.text)) :
    (ls.flatMap (Line.pending limits kind)).foldl (Pending.declare ids) f =
      (ls.map fun l => Statement.ofLine l.text).foldl (declareRelation limits kind) f := by
  rw [List.foldl_flatMap, List.foldl_map]
  refine List.foldl_ext _ _ _ fun f l hl => ?_
  have accepts := faultless_iff.1 (h l hl)
  rw [Line.pending]
  cases hst : Statement.ofLine l.text with
  | argument id weight => rfl
  | relation k source target weight =>
    rw [hst] at accepts
    obtain ⟨hsource, htarget, ⟨w, hw⟩, hsids, htids⟩ := accepts
    rw [pendingOf, declareRelation]
    split
    · have hs : isIdentifier limits source = true := isIdentifier_iff.2 hsource
      have ht : isIdentifier limits target = true := isIdentifier_iff.2 htarget
      have hvalid : (validateWeight limits .edge weight).toBool = true := by rw [hw]; rfl
      simp only [List.foldl_cons, List.foldl_nil, Pending.declare, Pending.faults, hs, ht, hvalid,
        hsids, htids, not_true_eq_false, and_false, if_false, List.append_nil, and_self, if_true]
    · rfl
  | unrecognized => rfl

/-- What is read of a description is what its lines say, or all that is wrong with them. -/
theorem parse_eq (limits : Limits) (text : String) :
    parse limits text =
      if diagnostics limits (lines text) = [] then
        .ok (framework limits ((lines text).map fun l => .ofLine l.text))
      else .error (diagnostics limits (lines text)) := by
  rw [parse]
  generalize lines text = ls
  have hread : ls.foldl (Draft.readLine limits) {} = _ := Draft.foldl_readLine ls {}
  generalize ls.foldl (Draft.readLine limits) {} = d at hread ⊢
  have hids (id : String) : id ∈ d.framework.arguments.keys ↔ id ∈ declared limits ls := by
    rw [hread, mem_keys_foldl_declareNamed]
    exact or_iff_right List.not_mem_nil
  have hfaults : d.diagnostics ++ (d.attacks ++ d.supports).flatMap (fun p =>
      (p.faults (declared limits ls)).map fun f => ⟨p.line, f⟩) = diagnostics limits ls := by
    rw [hread]
    simp only [List.nil_append, List.flatMap_append, List.flatMap_assoc, faults_pendingOf]
    rw [diagnostics, List.append_assoc]
  have hframework (h : diagnostics limits ls = []) :
      (d.attacks ++ d.supports).foldl (Pending.declare (declared limits ls)) d.framework =
        framework limits (ls.map fun l => .ofLine l.text) := by
    have faultless := diagnostics_eq_nil_iff.1 h
    rw [hread, List.foldl_append]
    simp only [List.nil_append]
    rw [foldl_declare .attack _ faultless, foldl_declare .support _ faultless,
      foldl_declareNamed _ faultless, framework]
  rw [Draft.foldl_settle _ hids, Draft.outcome]
  simp only [hfaults]
  split
  · next h => rw [hframework h]
  · rfl

end Description

end Argumentation
