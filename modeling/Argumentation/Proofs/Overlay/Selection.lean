import Argumentation.Proofs.Labeling
import Argumentation.Proofs.Overlay.Appearance

/-!
# Selecting a row

A row that is selected is selected in the other list too, at the first place where its text stands
(`IsFirstMatch`), and a row that was selected before is selected no more (`Toggled`).

If rows are selected in both lists, the primary one is shown, whichever of them was asked for.  They
differ in surrounding blanks only, so their literals are the same (`Toggled.map_parse_shown?`).
-/

namespace Argumentation

/-- Whether a place is that of the first row which differs from a row in surrounding blanks
only. -/
structure IsFirstMatch (rows : List String) (row : String) (i : Nat) : Prop where
  /-- There is such a row. -/
  equal : rows[i]?.map Text.trim = some (Text.trim row)
  /-- There is none in front. -/
  first : ∀ j < i, rows[j]?.map Text.trim ≠ some (Text.trim row)

theorem rowPosition?_eq_some_iff {rows : List String} {row : String} {i : Nat} :
    rowPosition? rows row = some i ↔ IsFirstMatch rows row i := by
  rw [rowPosition?, List.findIdx?_eq_some_iff_getElem]
  constructor
  · rintro ⟨hi, hequal, hfirst⟩
    constructor
    case equal =>
      rw [List.getElem?_eq_getElem hi]
      exact congrArg some (of_decide_eq_true hequal)
    case first =>
      intro j hj
      rw [List.getElem?_eq_getElem (Nat.lt_trans hj hi)]
      exact fun h => hfirst j hj (decide_eq_true (Option.some.inj h))
  · rintro ⟨hequal, hfirst⟩
    have hi : i < rows.length := Overlay.lt_of_map_getElem? hequal
    refine ⟨hi, ?_, fun j hj h => hfirst j hj ?_⟩
    · rw [List.getElem?_eq_getElem hi] at hequal
      exact decide_eq_true (Option.some.inj hequal)
    · rw [List.getElem?_eq_getElem (Nat.lt_trans hj hi)]
      exact congrArg some (of_decide_eq_true h)

namespace Overlay

variable {o o' : Overlay} {list : ResultList} {row : Nat} {clicked : String}

/-- Results of which a row was selected. -/
structure Toggled (o : Overlay) (list : ResultList) (row : Nat) (o' : Overlay) : Prop where
  /-- Lists and strengths stay. -/
  kept : o' = { o with
    primarySelected := o'.primarySelected
    filteredSelected := o'.filteredSelected }
  /-- If the row was selected before, nothing is selected then. -/
  again : o.selected list = some row → ∀ l, o'.selected l = none
  /-- Otherwise it is selected then. -/
  anew : o.selected list ≠ some row → o'.selected list = some row
  /-- With it, the first row of the other list that has its text is selected, and none if there is
  no such row. -/
  mirrored : o.selected list ≠ some row → ∀ i, o'.selected list.other = some i ↔
    ∃ clicked ∈ (o.labelings list)[row]?, IsFirstMatch (o.labelings list.other) clicked i

/-- A row that is there can be selected. -/
theorem exists_select (h : (o.labelings list)[row]? = some clicked) (g : Graph) :
    ∃ o', o.select g list row = .ok (o', o'.showLabeling g) ∧ o.Toggled list row o' := by
  unfold select
  rw [h]
  refine ⟨_, rfl, ?_⟩
  split
  · next hselected =>
    constructor
    case kept => rfl
    case again => exact fun _ l => by cases l <;> rfl
    case anew => exact fun hne => absurd hselected hne
    case mirrored => exact fun hne => absurd hselected hne
  · next hselected =>
    constructor
    case kept => cases list <;> rfl
    case again => exact fun heq => absurd heq hselected
    case anew => exact fun _ => by cases list <;> rfl
    case mirrored =>
      intro _ i
      have hother : ∀ (rows : Option Nat), ((o.setSelected list (some row)).setSelected list.other
          rows).selected list.other = rows := fun _ => by cases list <;> rfl
      simp only [hother, h, rowPosition?_eq_some_iff, Option.mem_def, Option.some.injEq,
        exists_eq_left']

/-- Whatever is selected was there, and is shown then. -/
theorem toggled_of_select {g g' : Graph} (h : o.select g list row = .ok (o', g')) :
    ∃ clicked, (o.labelings list)[row]? = some clicked ∧ o.Toggled list row o' ∧
      g' = o'.showLabeling g := by
  cases hclicked : (o.labelings list)[row]? with
  | none =>
    rw [select, hclicked] at h
    cases h
  | some clicked =>
    obtain ⟨o'', hselect, toggled⟩ := exists_select hclicked g
    rw [hselect] at h
    cases h
    exact ⟨clicked, rfl, toggled, rfl⟩

/-- A row that is not there cannot be selected. -/
theorem select_of_length_le (h : (o.labelings list).length ≤ row) (g : Graph) :
    o.select g list row = .error (.notFound ("labeling row " ++ Nat.repr row)) := by
  unfold select
  rw [List.getElem?_eq_none h]

namespace Toggled

variable (toggled : o.Toggled list row o')
include toggled

theorem labelings_eq (l : ResultList) : o'.labelings l = o.labelings l := by
  rw [toggled.kept]
  cases l <;> rfl

theorem strengths_eq : o'.strengths = o.strengths := by
  rw [toggled.kept]

/-- Nothing is shown once a selected row was selected again. -/
theorem shown?_of_again (h : o.selected list = some row) : o'.shown? = none := by
  have hprimary : o'.primarySelected = none := toggled.again h .primary
  have hfiltered : o'.filteredSelected = none := toggled.again h .filtered
  rw [shown?, hprimary, hfiltered]
  rfl

/-- Every row that is selected is the row that was asked for, up to surrounding blanks. -/
theorem map_trim_of_selected (h : o.selected list ≠ some row)
    (hclicked : (o.labelings list)[row]? = some clicked) {l : ResultList} {i : Nat}
    (hi : o'.selected l = some i) :
    (o'.labelings l)[i]?.map Text.trim = some (Text.trim clicked) := by
  have hl : l = list ∨ l = list.other := by cases l <;> cases list <;> simp [ResultList.other]
  rw [toggled.labelings_eq]
  obtain rfl | rfl := hl
  · obtain rfl : row = i := Option.some.inj ((toggled.anew h).symm.trans hi)
    rw [hclicked, Option.map_some]
  · obtain ⟨row', hrow', hmatch⟩ := (toggled.mirrored h i).1 hi
    obtain rfl : clicked = row' := Option.some.inj (hclicked.symm.trans hrow')
    exact hmatch.equal

/-- What is selected then are rows that are there, and they have the same text. -/
theorem wellSelected (hclicked : (o.labelings list)[row]? = some clicked) : o'.WellSelected := by
  by_cases h : o.selected list = some row
  · exact wellSelected_of_none (toggled.again h .primary) (toggled.again h .filtered)
  · constructor
    case within =>
      intro l i hi
      exact lt_of_map_getElem? (toggled.map_trim_of_selected h hclicked hi)
    case same =>
      intro i hi j hj
      have hprimary := toggled.map_trim_of_selected h hclicked (l := .primary) hi
      have hfiltered := toggled.map_trim_of_selected h hclicked (l := .filtered) hj
      exact hprimary.trans hfiltered.symm

/-- What is shown then is the row that was asked for, up to surrounding blanks. -/
theorem map_trim_shown? (h : o.selected list ≠ some row)
    (hclicked : (o.labelings list)[row]? = some clicked) :
    o'.shown?.map Text.trim = some (Text.trim clicked) := by
  rw [shown?]
  cases hprimary : o'.primarySelected with
  | some i =>
    have htrim := toggled.map_trim_of_selected h hclicked (l := .primary) hprimary
    obtain ⟨text, htext, -⟩ := Option.map_eq_some_iff.1 htrim
    have htext : o'.primary[i]? = some text := htext
    rw [Option.bind_some, htext, Option.some_or, ← htext]
    exact htrim
  | none =>
    obtain ⟨i, hi⟩ : ∃ i, o'.filteredSelected = some i := by
      cases list with
      | primary => cases hprimary.symm.trans (toggled.anew h)
      | filtered => exact ⟨row, toggled.anew h⟩
    rw [hi]
    exact toggled.map_trim_of_selected h hclicked (l := .filtered) hi

/-- What is shown then has the literals of the row that was asked for. -/
theorem map_parse_shown? (h : o.selected list ≠ some row)
    (hclicked : (o.labelings list)[row]? = some clicked) :
    o'.shown?.map Labeling.parse = some (Labeling.parse clicked) := by
  obtain ⟨text, htext, htrim⟩ := Option.map_eq_some_iff.1 (toggled.map_trim_shown? h hclicked)
  rw [htext, Option.map_some, ← Labeling.parse_trim text, htrim, Labeling.parse_trim]

end Toggled

/-! ## The graph that is shown -/

/-- If arguments are found by their identifiers, all of them look as the row that is shown says,
and nothing else changes. -/
theorem showLabeling_eq_mapArguments {g : Graph} (keyed : g.Keyed) (o : Overlay) :
    o.showLabeling g =
      g.mapArguments fun a => { a with appearance := labelLook o.shown? a.id } :=
  eq_mapArguments keyed (f := fun id a => { a with appearance := labelLook o.shown? id })
    (fun _ _ => rfl) (nodes_showLabeling o g) (clearResults_showLabeling o g)

/-- What was shown before leaves no trace. -/
theorem showLabeling_showLabeling (o o' : Overlay) (g : Graph) :
    o.showLabeling (o'.showLabeling g) = o.showLabeling g := by
  have hcleared : clearResults (o.showLabeling (o'.showLabeling g)) =
      clearResults (o.showLabeling g) := by
    rw [clearResults_showLabeling, clearResults_showLabeling, clearResults_showLabeling]
  refine eq_of_clearResults hcleared ?_
  rw [nodes_showLabeling, nodes_showLabeling, nodes_showLabeling, List.map_map]
  rfl

/-- Of the row that is shown, only the literals count. -/
theorem showLabeling_congr (h : o.shown?.map Labeling.parse = o'.shown?.map Labeling.parse)
    (g : Graph) : o.showLabeling g = o'.showLabeling g := by
  have hliterals (o : Overlay) : o.showLabeling g =
      (o.shown?.map Labeling.parse).elim (clearAppearances g) fun ls =>
        ls.foldl showLiteral (clearAppearances g) := by
    unfold showLabeling
    cases o.shown? <;> rfl
  rw [hliterals, hliterals, h]

end Overlay

end Argumentation
