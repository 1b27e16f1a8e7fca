import Argumentation.Proofs.Description.Accepted
import Mathlib.Data.List.FinRange

/-!
# The order of lines

A reader goes through the lines of a description one after the other, and yet the order of the
lines has no part in what is accepted, or in what is told of a description that is not.  What a
line has wrong depends on the other lines only by the set of the identifiers that they declare, so
lines in another order have the same diagnostics, in another order (`perm_diagnostics`) and under
other numbers (`diagnostics_renumber`).

Only where something is declared again the order counts, since the last line decides.  If nothing
is declared again, lines in another order say the same (`sameStructure_framework`).

Main statement: `parse_rearranged`.
-/

namespace Argumentation

/-- The diagnostic of a line that has another number. -/
def Diagnostic.renumber (number : Nat → Nat) (d : Diagnostic) : Diagnostic :=
  { d with line := number d.line }

namespace Description

variable {limits : Limits} {ls ls' : List Line} {ss ss' : List Statement}

/-! ## Lines in another order -/

theorem endFaults_congr {ids ids' : List String} (h : ∀ id, id ∈ ids ↔ id ∈ ids')
    (kind : RelationKind) (st : Statement) :
    endFaults limits ids kind st = endFaults limits ids' kind st := by
  cases st with
  | relation k source target weight => simp only [endFaults, h]
  | argument id weight => rfl
  | unrecognized => rfl

/-- Lines in another order have the same diagnostics in another order. -/
theorem perm_diagnostics (perm : ls.Perm ls') :
    (diagnostics limits ls).Perm (diagnostics limits ls') := by
  have hids (id : String) : id ∈ declared limits ls ↔ id ∈ declared limits ls' :=
    (perm.filterMap _).mem_iff
  have hends (kind : RelationKind) :
      (fun l : Line => l.diagnose (endFaults limits (declared limits ls) kind (.ofLine l.text))) =
        fun l => l.diagnose (endFaults limits (declared limits ls') kind (.ofLine l.text)) :=
    funext fun l => congrArg l.diagnose (endFaults_congr hids kind _)
  simp only [diagnostics, hends]
  exact ((perm.flatMap_right _).append (perm.flatMap_right _)).append (perm.flatMap_right _)

/-! ## Lines under other numbers -/

/-- The line under another number. -/
def Line.renumber (number : Nat → Nat) (l : Line) : Line := { l with number := number l.number }

theorem declared_renumber (number : Nat → Nat) (ls : List Line) :
    declared limits (ls.map (Line.renumber number)) = declared limits ls :=
  List.filterMap_map

theorem diagnose_renumber (number : Nat → Nat) (l : Line) (faults : List Fault) :
    (l.renumber number).diagnose faults =
      (l.diagnose faults).map (Diagnostic.renumber number) := by
  rw [Line.diagnose, Line.diagnose, List.map_map]
  rfl

/-- Lines under other numbers have the same diagnostics under these numbers. -/
theorem diagnostics_renumber (number : Nat → Nat) (ls : List Line) :
    diagnostics limits (ls.map (Line.renumber number)) =
      (diagnostics limits ls).map (Diagnostic.renumber number) := by
  have hlines (faults : Line → List Fault) (hfaults : ∀ l, faults (l.renumber number) = faults l) :
      (ls.map (Line.renumber number)).flatMap (fun l => l.diagnose (faults l)) =
        (ls.flatMap fun l => l.diagnose (faults l)).map (Diagnostic.renumber number) := by
    rw [List.flatMap_map, List.map_flatMap]
    refine List.flatMap_congr fun l _ => ?_
    rw [hfaults, diagnose_renumber]
  simp only [diagnostics, declared_renumber, List.map_append]
  rw [hlines _ fun _ => rfl, hlines _ fun _ => rfl, hlines _ fun _ => rfl]

/-! ## Texts in another order -/

theorem number_lines (text : String) (i : Fin (lines text).length) :
    ((lines text).get i).number = i + 1 := by
  rw [List.get_eq_getElem]
  simp [lines]

/-- The number that a line has after lines have moved. -/
def movedNumber {n m : Nat} (moved : Fin n ≃ Fin m) (number : Nat) : Nat :=
  if h : number - 1 < n then moved ⟨number - 1, h⟩ + 1 else number

theorem movedNumber_succ {n m : Nat} (moved : Fin n ≃ Fin m) (i : Fin n) :
    movedNumber moved (i + 1) = moved i + 1 := by
  simp [movedNumber]

theorem perm_map_finRange {n m : Nat} (moved : Fin n ≃ Fin m) :
    ((List.finRange n).map moved).Perm (List.finRange m) := by
  rw [List.perm_ext_iff_of_nodup ((List.nodup_finRange n).map moved.injective)
    (List.nodup_finRange m)]
  intro j
  exact iff_of_true (List.mem_map.2 ⟨moved.symm j, List.mem_finRange _, moved.apply_symm_apply j⟩)
    (List.mem_finRange j)

/-- Entries that are found at other places of another list, one for each of its places. -/
theorem perm_map_of_moved {α β : Type} {l : List α} {m : List β} (f : α → β)
    (moved : Fin l.length ≃ Fin m.length) (h : ∀ i, f (l.get i) = m.get (moved i)) :
    (l.map f).Perm m := by
  have hl : l.map f = ((List.finRange _).map moved).map m.get :=
    calc l.map f = ((List.finRange _).map l.get).map f := by rw [List.map_get_finRange]
      _ = (List.finRange _).map fun i => m.get (moved i) := by
        rw [List.map_map]
        exact List.map_congr_left fun i _ => h i
      _ = ((List.finRange _).map moved).map m.get := List.map_map.symm
  have hm := (perm_map_finRange moved).map m.get
  rwa [← hl, List.map_get_finRange] at hm

section Moved

variable {t u : String} (moved : Fin (lines t).length ≃ Fin (lines u).length)
  (texts : ∀ i, ((lines u).get (moved i)).text = ((lines t).get i).text)
include texts

/-- Lines that have moved are the lines of the other text under their new numbers. -/
theorem perm_lines :
    ((lines t).map (Line.renumber (movedNumber moved))).Perm (lines u) := by
  refine perm_map_of_moved _ moved fun i => ?_
  rw [Line.renumber, number_lines, movedNumber_succ, ← texts, ← number_lines u]

theorem perm_diagnostics_moved :
    ((diagnostics limits (lines t)).map (Diagnostic.renumber (movedNumber moved))).Perm
      (diagnostics limits (lines u)) := by
  rw [← diagnostics_renumber]
  exact perm_diagnostics (perm_lines moved texts)

theorem perm_statements : (statements t).Perm (statements u) := by
  have hperm := (perm_lines moved texts).map fun l : Line => Statement.ofLine l.text
  rw [List.map_map] at hperm
  exact hperm

end Moved

/-! ## What lines in another order say -/

theorem perm_argumentEntries (perm : ss.Perm ss') :
    (argumentEntries limits ss).Perm (argumentEntries limits ss') := perm.filterMap _

theorem perm_keyedEntries (perm : ss.Perm ss') :
    (keyedEntries limits ss).Perm (keyedEntries limits ss') :=
  ((perm.filterMap _).map _).append ((perm.filterMap _).map _)

/-- Statements in another order say the same, if none of them declares again what another one
declares. -/
theorem sameStructure_framework (perm : ss.Perm ss') (meets : (framework limits ss).Meets limits)
    (harguments : (argumentEntries limits ss).keys.Nodup)
    (hrelations : (keyedEntries limits ss).keys.Nodup) :
    (framework limits ss).sameStructure (framework limits ss') = true := by
  have hargumentsPerm : (argumentEntries limits ss).Perm (argumentEntries limits ss') :=
    perm_argumentEntries perm
  have hrelationsPerm : (keyedEntries limits ss).Perm (keyedEntries limits ss') :=
    perm_keyedEntries perm
  have harguments' : (argumentEntries limits ss').keys.Nodup :=
    (hargumentsPerm.map _).nodup harguments
  have hrelations' : (keyedEntries limits ss').keys.Nodup :=
    (hrelationsPerm.map _).nodup hrelations
  have hself := meets.sameStructure_self
  rw [framework_eq_ofEntries] at hself ⊢
  rw [framework_eq_ofEntries]
  have hdistinct := Framework.distinct_ofEntries harguments hrelations
  rw [Framework.sameStructure_iff hdistinct hdistinct] at hself
  rw [Framework.sameStructure_iff hdistinct (Framework.distinct_ofEntries harguments' hrelations')]
  constructor
  · intro id
    have hget : (Framework.ofEntries (argumentEntries limits ss')
        (keyedEntries limits ss')).arguments.get? id =
        (Framework.ofEntries (argumentEntries limits ss)
          (keyedEntries limits ss)).arguments.get? id := by
      rw [Framework.arguments_ofEntries harguments', Framework.arguments_ofEntries harguments]
      exact (Assoc.get?_perm hargumentsPerm harguments id).symm
    rw [hget]
    exact hself.1 id
  · intro key
    have hget : (Framework.ofEntries (argumentEntries limits ss')
        (keyedEntries limits ss')).relations.get? key =
        (Framework.ofEntries (argumentEntries limits ss)
          (keyedEntries limits ss)).relations.get? key := by
      rw [Framework.relations_get?_ofEntries harguments' hrelations',
        Framework.relations_get?_ofEntries harguments hrelations]
      exact (Assoc.get?_perm hrelationsPerm hrelations key).symm
    rw [hget]
    exact hself.2 key

/-! ## Descriptions in another order -/

theorem parse_eq_ok_framework {text : String} {f : Framework} (h : parse limits text = .ok f) :
    f = framework limits (statements text) := by
  rw [parse_eq] at h
  split at h
  · exact (Except.ok.inj h).symm
  · cases h

theorem parse_eq_error_diagnostics {text : String} {ds : List Diagnostic}
    (h : parse limits text = .error ds) : ds = diagnostics limits (lines text) := by
  rw [parse_eq] at h
  split at h
  · cases h
  · exact (Except.error.inj h).symm

theorem exists_parse_eq_ok_iff {text : String} :
    (∃ f, parse limits text = .ok f) ↔ diagnostics limits (lines text) = [] := by
  rw [parse_eq]
  split
  · next h => exact iff_of_true ⟨_, rfl⟩ h
  · next h => exact iff_of_false (fun ⟨_, hf⟩ => nomatch hf) h

/-- If the lines of a description are moved, with or without blank lines between them, it is
accepted if and only if it was accepted before.  If it is rejected, the same is told of the same
lines under their new numbers.  If it is accepted and nothing is declared twice, it says the
same. -/
theorem parse_rearranged (limits : Limits) (t u : String)
    (moved : Fin (lines t).length ≃ Fin (lines u).length)
    (texts : ∀ i, ((lines u).get (moved i)).text = ((lines t).get i).text) :
    ((∃ f, parse limits t = .ok f) ↔ ∃ g, parse limits u = .ok g) ∧
    (∀ ds es, parse limits t = .error ds → parse limits u = .error es →
      (ds.map (Diagnostic.renumber (movedNumber moved))).Perm es) ∧
    (∀ f g, parse limits t = .ok f → parse limits u = .ok g →
      (argumentEntries limits (statements t)).keys.Nodup →
      (keyedEntries limits (statements t)).keys.Nodup → f.sameStructure g = true) := by
  have hdiagnostics : ((diagnostics limits (lines t)).map
      (Diagnostic.renumber (movedNumber moved))).Perm (diagnostics limits (lines u)) :=
    perm_diagnostics_moved moved texts
  refine ⟨?_, ?_, ?_⟩
  · rw [exists_parse_eq_ok_iff, exists_parse_eq_ok_iff, ← List.map_eq_nil_iff]
    exact ⟨fun h => (h ▸ hdiagnostics).nil_eq.symm, fun h => (h ▸ hdiagnostics).eq_nil⟩
  · intro ds es hds hes
    rw [parse_eq_error_diagnostics hds, parse_eq_error_diagnostics hes]
    exact hdiagnostics
  · intro f g hf hg harguments hrelations
    have meets := parse_meets hf
    rw [parse_eq_ok_framework hf] at meets ⊢
    rw [parse_eq_ok_framework hg]
    exact sameStructure_framework (perm_statements moved texts) meets harguments hrelations

/-- An attack goes from in front of the arguments that it names to behind them, and the blank line
goes away. -/
theorem parse_rearranged_swapped :
    ∃ moved : Fin (lines "att(b,a).\n\n arg(A,0.5).\narg(b).").length ≃
        Fin (lines "arg(b).\r\narg(A,0.5).\natt(b,a).").length,
      (∀ i, ((lines "arg(b).\r\narg(A,0.5).\natt(b,a).").get (moved i)).text =
        ((lines "att(b,a).\n\n arg(A,0.5).\narg(b).").get i).text) ∧
      ∃ f g, parse {} "att(b,a).\n\n arg(A,0.5).\narg(b)." = .ok f ∧
        parse {} "arg(b).\r\narg(A,0.5).\natt(b,a)." = .ok g ∧ f ≠ g ∧
        f.sameStructure g = true := by
  let f : Framework := ⟨[("a", some (1 / 2)), ("b", none)], [(("b", "a"), none)], []⟩
  let g : Framework := ⟨[("b", none), ("a", some (1 / 2))], [(("b", "a"), none)], []⟩
  have hf : parse {} "att(b,a).\n\n arg(A,0.5).\narg(b)." = .ok f := by decide +kernel
  have hg : parse {} "arg(b).\r\narg(A,0.5).\natt(b,a)." = .ok g := by decide +kernel
  let moved : Fin (lines "att(b,a).\n\n arg(A,0.5).\narg(b).").length ≃
      Fin (lines "arg(b).\r\narg(A,0.5).\natt(b,a).").length :=
    (finCongr (by decide +kernel)).trans
      ((Equiv.swap (0 : Fin 3) 2).trans (finCongr (by decide +kernel)))
  have texts : ∀ i, ((lines "arg(b).\r\narg(A,0.5).\natt(b,a).").get (moved i)).text =
      ((lines "att(b,a).\n\n arg(A,0.5).\narg(b).").get i).text := by
    decide +kernel
  obtain ⟨-, -, hsame⟩ := parse_rearranged {} _ _ moved texts
  exact ⟨moved, texts, f, g, hf, hg, by decide +kernel,
    hsame f g hf hg (by decide +kernel) (by decide +kernel)⟩

end Description

end Argumentation
