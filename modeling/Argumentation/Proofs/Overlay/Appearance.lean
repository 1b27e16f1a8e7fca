import Argumentation.Proofs.Graph.Changes
import Argumentation.Proofs.Overlay

/-!
# How arguments look

Results are shown literal after literal, or line after line, and what comes later overwrites what
came before.  So what counts for an argument is the last entry that names it (`lastNamed?`): the
last literal of the row that is selected decides how it looks (`nodes_showLabeling`), the last line
of strengths that has the right form which strength it has, and by that again how it looks
(`nodes_setStrengths`).

The rows that are selected in the two lists are rows of these lists and have the same text
(`WellSelected`).
-/

namespace Argumentation

/-! ## The last entry -/

/-- What the last of some entries that names an argument says. -/
def lastNamed? {α : Type} (entries : List (String × α)) (id : String) : Option α :=
  (entries.reverse.find? (·.1 = id)).map (·.2)

theorem lastNamed?_cons {α : Type} (e : String × α) (entries : List (String × α)) (id : String) :
    lastNamed? (e :: entries) id =
      (lastNamed? entries id).or (if e.1 = id then some e.2 else none) := by
  rw [lastNamed?, lastNamed?, List.reverse_cons, List.find?_append]
  cases entries.reverse.find? (·.1 = id) with
  | some d => rfl
  | none =>
    by_cases h : e.1 = id
    · simp only [List.find?_cons, h, decide_true, Option.none_or, Option.map_some, if_true,
        Option.map_none]
    · simp only [List.find?_cons, h, decide_false, List.find?_nil, Option.none_or,
        Option.map_none, if_false]

/-- The strength that the last line of the right form gives an argument. -/
def Strength.last? (lines : List String) (id : String) : Option Binary64 :=
  lastNamed? (lines.filterMap parseLine?) id

theorem Labeling.status?_eq_lastNamed? (literals : List Literal) (id : String) :
    status? literals id = lastNamed? (literals.map fun l => (l.argument, l.status)) id := by
  rw [status?, lastNamed?, ← List.map_reverse, List.find?_map, Option.map_map]
  rfl

/-! ## Entries name arguments by their identifiers -/

theorem Labeling.isCanonical_of_readLiteral? {cs rest : List Char} {l : Literal}
    (h : readLiteral? cs = some (l, rest)) : IsCanonical l.argument := by
  simp only [readLiteral?, Option.bind_eq_bind, Option.bind_eq_some_iff] at h
  obtain ⟨⟨status, behind⟩, -, h⟩ := h
  split at h
  · split at h
    · cases h
    · cases h
      exact isCanonical_canonicalId _
  · cases h

theorem Labeling.isCanonical_of_mem_readFrom {inWord : Bool} {skip : Nat} {cs : List Char}
    {l : Literal} (hl : l ∈ readFrom inWord skip cs) : IsCanonical l.argument := by
  induction cs generalizing inWord skip with
  | nil => cases hl
  | cons c cs ih =>
    unfold readFrom at hl
    split at hl
    · exact ih hl
    · split at hl
      · exact ih hl
      · split at hl
        · next hread =>
          cases hl with
          | head => exact isCanonical_of_readLiteral? hread
          | tail _ hl => exact ih hl
        · exact ih hl

theorem Strength.isCanonical_of_parseLine? {line : String} {e : String × Binary64}
    (h : parseLine? line = some e) : IsCanonical e.1 := by
  simp only [parseLine?, Option.bind_eq_bind, Option.bind_eq_some_iff] at h
  obtain ⟨⟨id, value⟩, -, h⟩ := h
  split at h
  · obtain ⟨x, -, h⟩ := Option.bind_eq_some_iff.1 h
    split at h
    · rw [← Option.some.inj h]
      exact isCanonical_canonicalId _
    · cases h
  · cases h

/-! ## Painting -/

theorem Graph.modifyArgument_of_not_contains {g : Graph} {id : String} (h : g.contains id = false)
    (f : Argument → Argument) : g.modifyArgument id f = g := by
  have hnodes : (g.modifyArgument id f).nodes = g.nodes := by
    refine (List.map_congr_left fun n hn => if_neg fun hkey => ?_).trans (List.map_id' g.nodes)
    have hcontains : g.contains id = true := List.any_eq_true.2 ⟨n, hn, decide_eq_true hkey⟩
    rw [h] at hcontains
    cases hcontains
  exact congrArg (fun nodes => { g with nodes }) hnodes

namespace Overlay

/-- Changes that overwrite each other leave on each argument what the last entry that names it
says. -/
theorem nodes_foldl_modifyArgument {α : Type} (paint : α → Argument → Argument)
    (hpaint : ∀ x y a, paint y (paint x a) = paint y a) {entries : List (String × α)}
    (hcanonical : ∀ e ∈ entries, IsCanonical e.1) (g : Graph) :
    (entries.foldl (fun g e => g.modifyArgument e.1 (paint e.2)) g).nodes =
      g.nodes.map fun n =>
        { n with argument := (lastNamed? entries n.key).elim n.argument (paint · n.argument) } := by
  induction entries generalizing g with
  | nil => exact (List.map_id' g.nodes).symm
  | cons e entries ih =>
    rw [List.forall_mem_cons] at hcanonical
    have hid : canonicalId e.1 = e.1 := hcanonical.1
    rw [List.foldl_cons, ih hcanonical.2, Graph.modifyArgument, List.map_map]
    refine List.map_congr_left fun n _ => ?_
    rw [Function.comp_apply, lastNamed?_cons, hid]
    by_cases hkey : n.key = e.1
    · rw [if_pos hkey, if_pos hkey.symm]
      cases lastNamed? entries n.key with
      | none => rfl
      | some y => exact congrArg (Node.mk n.key) (hpaint e.2 y n.argument)
    · rw [if_neg hkey, if_neg (Ne.symm hkey), Option.or_none]

/-- How an argument looks by the row that is shown. -/
def labelLook (row : Option String) (id : String) : Appearance :=
  (row.bind fun row => Labeling.status? (Labeling.parse row) id).elim .plain (·.appearance)

/-- How an argument looks by its strength. -/
def strengthLook (x : Option Binary64) : Appearance :=
  x.elim .plain fun x => .strength (Strength.bucket x)

theorem nodes_clearAppearances (g : Graph) :
    (clearAppearances g).nodes =
      g.nodes.map fun n => { n with argument := { n.argument with appearance := .plain } } := rfl

/-- Every argument looks as the row that is shown says. -/
theorem nodes_showLabeling (o : Overlay) (g : Graph) :
    (o.showLabeling g).nodes = g.nodes.map fun n =>
      { n with argument := { n.argument with appearance := labelLook o.shown? n.key } } := by
  unfold showLabeling
  cases o.shown? with
  | none => rfl
  | some row =>
    let entries := (Labeling.parse row).map fun l => (l.argument, l.status)
    let paint (status : LabelStatus) (a : Argument) : Argument :=
      { a with appearance := status.appearance }
    have hcanonical : ∀ e ∈ entries, IsCanonical e.1 :=
      List.forall_mem_map.2 fun l hl => Labeling.isCanonical_of_mem_readFrom hl
    have hpainted := nodes_foldl_modifyArgument paint (fun _ _ _ => rfl) hcanonical
      (clearAppearances g)
    rw [List.foldl_map, nodes_clearAppearances, List.map_map] at hpainted
    refine hpainted.trans (List.map_congr_left fun n _ => ?_)
    rw [Function.comp_apply, labelLook, Option.bind_some, Labeling.status?_eq_lastNamed?]
    cases lastNamed? entries n.key <;> rfl

/-- An argument that shows a strength. -/
def withStrength (x : Binary64) (a : Argument) : Argument :=
  { a with strength := some x, appearance := .strength (Strength.bucket x) }

/-- A line that names no argument changes nothing, like one that has not the right form. -/
theorem fst_showStrength (shown : Graph × Nat) (line : String) :
    (showStrength shown line).1 = (Strength.parseLine? line).elim shown.1 fun e =>
      shown.1.modifyArgument e.1 (withStrength e.2) := by
  unfold showStrength
  cases Strength.parseLine? line with
  | none => rfl
  | some e =>
    simp only [Option.elim_some]
    split
    · rfl
    · next h => exact (Graph.modifyArgument_of_not_contains (Bool.not_eq_true _ ▸ h) _).symm

theorem fst_foldl_showStrength (lines : List String) (shown : Graph × Nat) :
    (lines.foldl showStrength shown).1 =
      (lines.filterMap Strength.parseLine?).foldl
        (fun g e => g.modifyArgument e.1 (withStrength e.2)) shown.1 := by
  induction lines generalizing shown with
  | nil => rfl
  | cons line lines ih =>
    rw [List.foldl_cons, ih, fst_showStrength, List.filterMap_cons]
    cases Strength.parseLine? line <;> rfl

/-- Every argument has the strength of the last line that names it, and looks like it. -/
theorem nodes_setStrengths (o : Overlay) (g : Graph) (lines : List String) :
    (o.setStrengths g lines).2.1.nodes = g.nodes.map fun n =>
      { n with argument := { n.argument with
          strength := Strength.last? lines n.key
          appearance := strengthLook (Strength.last? lines n.key) } } := by
  have hcanonical : ∀ e ∈ lines.filterMap Strength.parseLine?, IsCanonical e.1 := by
    intro e he
    obtain ⟨line, -, hline⟩ := List.mem_filterMap.1 he
    exact Strength.isCanonical_of_parseLine? hline
  have hpainted := nodes_foldl_modifyArgument withStrength (fun _ _ _ => rfl) hcanonical
    (clearResults g)
  rw [setStrengths]
  dsimp only
  rw [fst_foldl_showStrength]
  refine hpainted.trans ?_
  rw [clearResults, Graph.mapArguments, List.map_map]
  refine List.map_congr_left fun n _ => ?_
  rw [Function.comp_apply, Strength.last?]
  cases lastNamed? (lines.filterMap Strength.parseLine?) n.key <;> rfl

/-! ## Selections -/

/-- Selections of rows that are there, and have the same text. -/
structure WellSelected (o : Overlay) : Prop where
  /-- What is selected is a row of the list. -/
  within : ∀ list, ∀ row ∈ o.selected list, row < (o.labelings list).length
  /-- If there is a selection in both lists, the rows differ in surrounding blanks only. -/
  same : ∀ i ∈ o.primarySelected, ∀ j ∈ o.filteredSelected,
    o.primary[i]?.map Text.trim = o.filtered[j]?.map Text.trim

theorem lt_of_map_getElem? {rows : List String} {i : Nat} {row : String}
    (h : rows[i]?.map Text.trim = some row) : i < rows.length := by
  obtain ⟨text, htext, -⟩ := Option.map_eq_some_iff.1 h
  exact (List.getElem?_eq_some_iff.1 htext).1

theorem wellSelected_of_none {o : Overlay} (hprimary : o.primarySelected = none)
    (hfiltered : o.filteredSelected = none) : o.WellSelected := by
  constructor
  case within =>
    intro list row hrow
    cases list with
    | primary => cases hprimary.symm.trans hrow
    | filtered => cases hfiltered.symm.trans hrow
  case same =>
    intro i hi
    cases hprimary.symm.trans hi

theorem WellSelected.setFiltered {o : Overlay} (selected : o.WellSelected) (g : Graph)
    (rows : List String) : (o.setFiltered g rows).1.WellSelected := by
  constructor
  case within =>
    intro list row hrow
    cases list with
    | primary => exact selected.within .primary row hrow
    | filtered => cases hrow
  case same =>
    intro i hi j hj
    cases hj

end Overlay

end Argumentation
