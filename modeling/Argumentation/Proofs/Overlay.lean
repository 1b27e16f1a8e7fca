import Argumentation.Overlay
import Argumentation.Proofs.Graph.Entries

/-!
# Results change nothing but how arguments look

To show results sets strengths and appearances.  When they are discarded again, the graph is the
one on which they were discarded before (`clearResults_showLabeling`, `clearResults_setStrengths`).
So nothing of what a graph says has changed either (`content_of_clearResults`).
-/

namespace Argumentation.Overlay

open Argumentation.Graph

variable {g g' : Graph}

/-! ## Discarded results -/

theorem arguments_clearResults (g : Graph) :
    (clearResults g).arguments = g.arguments.map Argument.clearResults := by
  simp only [clearResults, mapArguments, arguments, List.map_map]
  rfl

theorem keys_clearResults (g : Graph) : (clearResults g).keys = g.keys := by
  simp only [clearResults, mapArguments, keys, List.map_map]
  rfl

/-- To change the results of arguments does not count once results are discarded. -/
theorem clearResults_mapArguments (g : Graph) {f : Argument → Argument}
    (hf : ∀ a, (f a).clearResults = a.clearResults) :
    clearResults (g.mapArguments f) = clearResults g := by
  simp only [clearResults, mapArguments, List.map_map, Function.comp_def, hf]

theorem clearResults_modifyArgument (g : Graph) (id : String) {f : Argument → Argument}
    (hf : ∀ a, (f a).clearResults = a.clearResults) :
    clearResults (g.modifyArgument id f) = clearResults g := by
  have hnodes : (clearResults (g.modifyArgument id f)).nodes = (clearResults g).nodes := by
    simp only [clearResults, mapArguments, modifyArgument, List.map_map]
    refine List.map_congr_left fun n _ => ?_
    simp only [Function.comp_apply]
    split
    · rw [hf]
    · rfl
  rw [clearResults, mapArguments]
  exact congrArg (fun nodes => { g with nodes }) hnodes

@[simp] theorem clearResults_clearResults (g : Graph) :
    clearResults (clearResults g) = clearResults g :=
  clearResults_mapArguments g fun _ => rfl

theorem clearResults_clearAppearances (g : Graph) :
    clearResults (clearAppearances g) = clearResults g :=
  clearResults_mapArguments g fun _ => rfl

/-! ## Results that are shown -/

theorem clearResults_foldl_showLiteral (ls : List Literal) (g : Graph) :
    clearResults (ls.foldl showLiteral g) = clearResults g := by
  induction ls generalizing g with
  | nil => rfl
  | cons l ls ih =>
    rw [List.foldl_cons, ih]
    exact clearResults_modifyArgument g l.argument fun _ => rfl

theorem clearResults_showLabeling (o : Overlay) (g : Graph) :
    clearResults (o.showLabeling g) = clearResults g := by
  unfold showLabeling
  cases o.shown? with
  | none => exact clearResults_clearAppearances g
  | some row =>
    simp only
    rw [clearResults_foldl_showLiteral, clearResults_clearAppearances]

theorem clearResults_select {o : Overlay} {list : ResultList} {row : Nat}
    {shown : Overlay × Graph} (h : o.select g list row = .ok shown) :
    clearResults shown.2 = clearResults g := by
  unfold select at h
  split at h
  · cases h
  · cases h
    exact clearResults_showLabeling _ g

theorem clearResults_showStrength (shown : Graph × Nat) (line : String) :
    clearResults (showStrength shown line).1 = clearResults shown.1 := by
  unfold showStrength
  cases Strength.parseLine? line with
  | none => rfl
  | some p =>
    have hmodify := clearResults_modifyArgument shown.1 p.1 (f := fun a =>
      { a with strength := some p.2, appearance := .strength (Strength.bucket p.2) }) fun _ => rfl
    simp only
    split
    · exact hmodify
    · rfl

theorem clearResults_foldl_showStrength (lines : List String) (shown : Graph × Nat) :
    clearResults (lines.foldl showStrength shown).1 = clearResults shown.1 := by
  induction lines generalizing shown with
  | nil => rfl
  | cons line lines ih => rw [List.foldl_cons, ih, clearResults_showStrength]

theorem clearResults_setStrengths (o : Overlay) (g : Graph) (lines : List String) :
    clearResults (o.setStrengths g lines).2.1 = clearResults g := by
  rw [setStrengths]
  simp only
  rw [clearResults_foldl_showStrength, clearResults_clearResults]

/-! ## What the graph says -/

theorem content_clearResults (g : Graph) : (clearResults g).content = g.content :=
  content_mapArguments g (fun _ => rfl) fun _ => rfl

/-- Graphs that differ in results only say the same. -/
theorem content_of_clearResults (h : clearResults g' = clearResults g) :
    g'.content = g.content := by
  rw [← content_clearResults g', h, content_clearResults]

/-- Graphs that differ in results only are the same if their arguments are. -/
theorem eq_of_clearResults (h : clearResults g' = clearResults g) (hnodes : g'.nodes = g.nodes) :
    g' = g := by
  have hcontent := content_of_clearResults h
  calc g' = ⟨g'.nodes, g'.relations, g'.counter⟩ := rfl
    _ = ⟨g.nodes, g.relations, g.counter⟩ := by
      rw [hnodes, relations_of_content hcontent, counter_of_content hcontent]

/-- If arguments are found by their identifiers, results that are given to keys are given to
identifiers. -/
theorem eq_mapArguments (keyed : g.Keyed) {f : String → Argument → Argument}
    (hf : ∀ id a, (f id a).clearResults = a.clearResults)
    (hnodes : g'.nodes = g.nodes.map fun n => { n with argument := f n.key n.argument })
    (h : clearResults g' = clearResults g) : g' = g.mapArguments fun a => f a.id a := by
  refine eq_of_clearResults (h.trans (clearResults_mapArguments g fun a => hf a.id a).symm) ?_
  rw [hnodes, mapArguments]
  exact List.map_congr_left fun n hn => by rw [keyed.keyed n hn]

end Argumentation.Overlay
