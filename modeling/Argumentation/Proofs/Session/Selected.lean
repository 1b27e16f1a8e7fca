import Argumentation.Proofs.Overlay.Selection
import Argumentation.Proofs.Session.Steps

/-!
# Rows that are selected in a session

A click on a row of a list selects it, and a second click on it clears all selections again
(`run_selectLabeling`).  Each time all arguments look as the row says that is shown then, and
nothing else changes.
-/

namespace Argumentation.Session

open Overlay

variable {config : Config} {s : Session} {list : ResultList} {row : Nat} {clicked : String}

/-! ## A single click -/

/-- The session in which other results are held, and its arguments look as the row says that is
shown by them. -/
def showingRow (s : Session) (o : Overlay) : Session :=
  s.showing (o, s.graph.mapArguments fun a => { a with appearance := labelLook o.shown? a.id })

/-- A row that is not there cannot be selected, and nothing changes. -/
theorem selectLabeling_of_length_le (h : (s.overlay.labelings list).length ≤ row) :
    s.selectLabeling list row =
      (s, .error (.notFound ("labeling row " ++ Nat.repr row))) := by
  rw [selectLabeling, select_of_length_le h]

/-- A row that is there can be selected. -/
theorem exists_selectLabeling (orderly : Orderly config s)
    (h : (s.overlay.labelings list)[row]? = some clicked) :
    ∃ o', s.selectLabeling list row = (s.showingRow o', .ok ()) ∧
      s.overlay.Toggled list row o' := by
  obtain ⟨o', hselect, toggled⟩ := exists_select h s.graph
  refine ⟨o', ?_, toggled⟩
  rw [selectLabeling, hselect, showLabeling_eq_mapArguments orderly.keyed, showingRow]

/-! ## Two clicks -/

theorem appearance_of_mem_showingRow {o : Overlay} (hshown : o.shown? = none) {a : Argument}
    (ha : a ∈ (s.showingRow o).graph.arguments) : a.appearance = .plain := by
  simp only [showingRow, showing, Graph.mapArguments, Graph.arguments, List.map_map] at ha
  obtain ⟨n, -, rfl⟩ := List.mem_map.1 ha
  simp only [Function.comp_apply, hshown]
  rfl

/-- To select a selected row again leaves nothing selected and no argument that looks special. -/
theorem selectLabeling_again (orderly : Orderly config s)
    (h : (s.overlay.labelings list)[row]? = some clicked)
    (hselected : s.overlay.selected list = some row) :
    (s.selectLabeling list row).2 = .ok () ∧
      (∀ l, (s.selectLabeling list row).1.overlay.selected l = none) ∧
        ∀ a ∈ (s.selectLabeling list row).1.graph.arguments, a.appearance = .plain := by
  obtain ⟨o', hresult, toggled⟩ := exists_selectLabeling orderly h
  rw [hresult]
  exact ⟨rfl, toggled.again hselected,
    fun a ha => appearance_of_mem_showingRow (toggled.shown?_of_again hselected) ha⟩

/-- To select a row twice that was not selected does the same. -/
theorem selectLabeling_twice (orderly : Orderly config s)
    (h : (s.overlay.labelings list)[row]? = some clicked)
    (hselected : s.overlay.selected list ≠ some row) :
    let t := (s.selectLabeling list row).1
    (t.selectLabeling list row).2 = .ok () ∧
      (∀ l, (t.selectLabeling list row).1.overlay.selected l = none) ∧
        ∀ a ∈ (t.selectLabeling list row).1.graph.arguments, a.appearance = .plain := by
  intro t
  obtain ⟨o', hresult, toggled⟩ := exists_selectLabeling orderly h
  have ht : t = s.showingRow o' := congrArg Prod.fst hresult
  have horderly : Orderly config t :=
    orderly.of_resetResults (resetResults_selectLabeling s list row)
  have hrow : (t.overlay.labelings list)[row]? = some clicked := by
    rw [ht]
    exact (congrArg (·[row]?) (toggled.labelings_eq list)).trans h
  have hagain : t.overlay.selected list = some row := by
    rw [ht]
    exact toggled.anew hselected
  exact selectLabeling_again horderly hrow hagain

/-! ## Runs -/

/-- In every session that is reached, a row can be selected if and only if it is there.  It is
selected then unless it was selected before, the selection of the other list follows, and all
arguments look as the last literal says that names them in the row that is shown.  The lists, the
strengths and all else stay.  Whoever selects a row twice, one that was not selected, finds nothing
selected any more and no argument that looks special. -/
theorem run_selectLabeling (config : Config) (ops : List Operation) (list : ResultList)
    (row : Nat) :
    let s := (new config).run ops
    let length := (s.overlay.labelings list).length
    let t := (s.selectLabeling list row).1
    let answer := (s.selectLabeling list row).2
    let u := (t.selectLabeling list row).1
    ((∃ what, answer = .error (.notFound what)) ↔ length ≤ row) ∧
    (length ≤ row → t = s ∧ answer = .error (.notFound ("labeling row " ++ Nat.repr row))) ∧
    (row < length → answer = .ok () ∧ s.overlay.Toggled list row t.overlay ∧
      t = s.showing (t.overlay, s.graph.mapArguments fun a =>
        { a with appearance := labelLook t.overlay.shown? a.id })) ∧
    (row < length → s.overlay.selected list ≠ some row →
      (t.selectLabeling list row).2 = .ok () ∧ (∀ l, u.overlay.selected l = none) ∧
        ∀ a ∈ u.graph.arguments, a.appearance = .plain) := by
  intro s length t answer u
  have orderly : Orderly config s := run_orderly config ops
  have hmissing : length ≤ row →
      t = s ∧ answer = .error (.notFound ("labeling row " ++ Nat.repr row)) := fun h =>
    Prod.mk.inj (selectLabeling_of_length_le h)
  have hclicked : row < length → ∃ clicked, (s.overlay.labelings list)[row]? = some clicked :=
    fun h => ⟨_, List.getElem?_eq_getElem h⟩
  have hthere : row < length → ∃ o', s.selectLabeling list row = (s.showingRow o', .ok ()) ∧
      s.overlay.Toggled list row o' := by
    intro h
    obtain ⟨clicked, hclicked⟩ := hclicked h
    exact exists_selectLabeling orderly hclicked
  refine ⟨⟨?_, fun h => ⟨_, (hmissing h).2⟩⟩, hmissing, ?_, ?_⟩
  · rintro ⟨what, hanswer⟩
    by_contra h
    obtain ⟨o', hresult, -⟩ := hthere (Nat.lt_of_not_le h)
    have hok : answer = .ok () := congrArg Prod.snd hresult
    rw [hok] at hanswer
    cases hanswer
  · intro h
    obtain ⟨o', hresult, toggled⟩ := hthere h
    have ht : t = s.showingRow o' := congrArg Prod.fst hresult
    rw [ht]
    exact ⟨congrArg Prod.snd hresult, toggled, rfl⟩
  · intro h hselected
    obtain ⟨clicked, hclicked⟩ := hclicked h
    exact selectLabeling_twice orderly hclicked hselected

/-- A service whose filtered labeling differs from two of the computed ones in blanks only. -/
def paddingService : Service where
  extensions _ :=
    .ok ⟨some (.array [.text "in(a)", .text " in(b) ou(B)", .text "in(b) ou(B)"]), none⟩
  strengths _ := .error Response.unexpectedFormat
  filter _ := .ok ⟨some (.array [.array [.text "in(b)", .text "ou(B) "]]), none⟩

/-- A filtered row is selected twice.  It stands in the primary list, too, in two places, and its
two literals name the same argument. -/
theorem run_selectLabeling_mirrored :
    let s := (new {}).run [.applyDescription "arg(a).\narg(b).",
      .computeLabelings paddingService none, .filterLabelings paddingService "in(b)"]
    let t := (s.selectLabeling .filtered 0).1
    let u := (t.selectLabeling .filtered 0).1
    s.overlay.Toggled .filtered 0 t.overlay ∧
      t.overlay.primarySelected = some 1 ∧ t.overlay.filteredSelected = some 0 ∧
      t.overlay.shown? = some " in(b) ou(B)" ∧
      t.graph.arguments.map (·.appearance) = [.plain, .rejected] ∧
      u.overlay.primarySelected = none ∧ u.overlay.filteredSelected = none ∧
      (s.selectLabeling .filtered 1).2 = .error (.notFound "labeling row 1") := by
  intro s t u
  obtain ⟨-, -, hthere, htwice⟩ := run_selectLabeling {} [.applyDescription "arg(a).\narg(b).",
    .computeLabelings paddingService none, .filterLabelings paddingService "in(b)"] .filtered 0
  obtain ⟨-, hmissing, -⟩ := run_selectLabeling {} [.applyDescription "arg(a).\narg(b).",
    .computeLabelings paddingService none, .filterLabelings paddingService "in(b)"] .filtered 1
  obtain ⟨-, htoggled, -⟩ := hthere (by decide +kernel)
  obtain ⟨-, hnone, -⟩ := htwice (by decide +kernel) (by decide +kernel)
  exact ⟨htoggled, by decide +kernel, by decide +kernel, by decide +kernel, by decide +kernel,
    hnone .primary, hnone .filtered, (hmissing (by decide +kernel)).2⟩

end Argumentation.Session
