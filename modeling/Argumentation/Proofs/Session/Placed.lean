import Argumentation.Proofs.Grid
import Argumentation.Proofs.Session.Reapplied

/-!
# Where descriptions place arguments

A description that is applied places its new arguments on the default grid, from the slot on that
is the number of the arguments before.  Which slot every argument gets hangs on the accepted
descriptions only, and of these only on the arguments that they declare (`slotsOf`).

So if no accepted description leaves out an argument of the one before, no two arguments are ever
placed on each other.  Otherwise they may be (`placed_twice`): what is left out leaves a gap, and
the next new argument gets a slot on which another one stands that has stayed behind the gap.

Main statement: `run_placed`.
-/

namespace Argumentation

/-! ## Graphs on the grid -/

namespace Graph

variable {g : Graph} {f : Framework} {slots : Assoc String Nat}

/-- The arguments with their places. -/
def places (g : Graph) : Assoc String Position := g.arguments.map fun a => (a.id, a.position)

/-- Whether the arguments stand on slots of the grid. -/
def OnGrid (slots : Assoc String Nat) (g : Graph) : Prop :=
  g.places = slots.map fun e => (e.1, gridPosition e.2)

theorem places_clearResults (g : Graph) : (Overlay.clearResults g).places = g.places := by
  rw [places, Overlay.arguments_clearResults, List.map_map]
  rfl

theorem OnGrid.keys_eq (grid : g.OnGrid slots) (sound : g.Sound) : slots.keys = g.keys := by
  have hids := congrArg (List.map (·.1)) grid
  rw [places, List.map_map, List.map_map] at hids
  exact hids.symm.trans sound.map_id_arguments

theorem OnGrid.length_eq (grid : g.OnGrid slots) : g.nodes.length = slots.length := by
  have hlength := congrArg List.length grid
  rwa [places, arguments, List.length_map, List.length_map, List.length_map] at hlength

/-- What comes is placed in the order in which it comes. -/
theorem mapIdx_gridPosition (l : Assoc String (Option Binary64)) (n : Nat) :
    (l.mapIdx fun i e => (e.1, gridPosition (n + i))) =
      (l.keys.zipIdx n).map fun e => (e.1, gridPosition e.2) := by
  induction l generalizing n with
  | nil => rfl
  | cons e l ih =>
    have hnext : (fun i (d : String × Option Binary64) => (d.1, gridPosition (n + (i + 1)))) =
        fun i d => (d.1, gridPosition (n + 1 + i)) := by
      funext i d
      rw [Nat.add_right_comm, Nat.add_assoc]
    rw [List.mapIdx_cons, Assoc.keys_cons, List.zipIdx_cons, List.map_cons, ← ih, hnext]
    rfl

theorem keys_newArguments (g : Graph) (f : Framework) :
    (Reconcile.newArguments g f).keys = f.arguments.keys.filter (· ∉ g.keys) := by
  rw [Reconcile.newArguments, Assoc.keys, Assoc.keys, List.filter_map]
  rfl

/-- A reconciliation assigns slots. -/
theorem OnGrid.target (grid : g.OnGrid slots) (sound : g.Sound) (f : Framework) :
    (Reconcile.target g f fun i _ => gridPosition (slots.length + i)).reseed.OnGrid
      (Grid.assign slots f.arguments.keys) := by
  have hstay : ((g.arguments.filter (f.containsArgument ·.id)).map fun a =>
      (a.id, a.position)) =
        (slots.filter (·.1 ∈ f.arguments.keys)).map fun e => (e.1, gridPosition e.2) := by
    have hcontains : g.arguments.filter (f.containsArgument ·.id) =
        g.arguments.filter (·.id ∈ f.arguments.keys) :=
      List.filter_congr fun a _ => by
        rw [Bool.eq_iff_iff, Framework.containsArgument_iff, decide_eq_true_eq]
    have hfilter := congrArg (List.filter fun e => decide (e.1 ∈ f.arguments.keys)) grid
    rw [places, List.filter_map, List.filter_map] at hfilter
    rw [hcontains]
    exact hfilter
  have hnew : (Reconcile.newArguments g f).keys = Grid.fresh slots f.arguments.keys := by
    rw [keys_newArguments, Grid.fresh, grid.keys_eq sound]
  have hplaces : (Reconcile.target g f fun i _ => gridPosition (slots.length + i)).reseed.places =
      (Reconcile.target g f fun i _ => gridPosition (slots.length + i)).arguments.map
        fun a => (a.id, a.position) := rfl
  rw [OnGrid, hplaces, Reconcile.arguments_target sound, List.map_append, List.map_map,
    Reconcile.map_mapIdx, mapIdx_gridPosition, hnew, Grid.assign, List.map_append]
  exact congrArg (· ++ _) hstay

/-- Arguments stand on different places if and only if they stand on different slots. -/
theorem OnGrid.pairwise_apart_iff (grid : g.OnGrid slots) (small : ∀ e ∈ slots, e.2 < Nat.pow 2 51) :
    g.arguments.Pairwise (fun a b => a.position.Apart b.position) ↔ (slots.map (·.2)).Nodup := by
  have hplaces : g.arguments.Pairwise (fun a b => a.position.Apart b.position) ↔
      g.places.Pairwise fun d e => d.2.Apart e.2 := by
    rw [places, List.pairwise_map]
  rw [hplaces, grid, List.pairwise_map, List.Nodup, List.pairwise_map]
  exact List.Pairwise.iff_of_mem fun hd he => apart_gridPosition_iff (small _ hd) (small _ he)

end Graph

/-! ## Sessions on the grid -/

namespace Session

variable {config : Config} {n : Nat} {s : Session} {slots : Assoc String Nat} {text : String}
  {f : Framework}

/-- The arguments that a description declares, if it is accepted. -/
def declaredIds (limits : Limits) (text : String) : Option (List String) :=
  (Description.parse limits text).toOption.map (·.arguments.keys)

/-- The slots that arguments have after some descriptions. -/
def slotsOf (limits : Limits) (texts : List String) : Assoc String Nat :=
  Grid.assignAll (texts.filterMap (declaredIds limits))

/-- What an accepted description declares is declared once, and there is an accepted description
for it. -/
theorem exists_of_declaredIds {limits : Limits} {ids : List String}
    (h : declaredIds limits text = some ids) :
    ∃ f, Description.parse limits text = .ok f ∧ f.arguments.keys = ids ∧ ids.Nodup := by
  unfold declaredIds at h
  cases hparse : Description.parse limits text with
  | error ds =>
    rw [hparse] at h
    cases h
  | ok f =>
    rw [hparse] at h
    cases h
    exact ⟨f, rfl, rfl, (Description.parse_meets hparse).arguments⟩

/-- A description that is refused moves nobody. -/
theorem onGrid_of_refused (agrees : Agrees config n s) (grid : s.graph.OnGrid slots)
    (h : declaredIds config.limits text = none) :
    (s.applyDescription text).1.graph.OnGrid slots := by
  unfold declaredIds at h
  cases hparse : Description.parse config.limits text with
  | ok f =>
    rw [hparse] at h
    cases h
  | error ds =>
    rw [applyDescription, applyDescriptionWith_of_error (agrees.config_eq.symm ▸ hparse)]
    exact grid

/-- A description that is accepted assigns slots.  If it differs from the one that was applied last
in surrounding blanks only, everyone has a slot and nobody leaves. -/
theorem onGrid_of_accepted (agrees : Agrees config n s) (grid : s.graph.OnGrid slots)
    (accepted : Description.parse config.limits text = .ok f)
    (room : n + s.drawn (.applyDescription text) ≤ Graph.lastNumber) :
    (s.applyDescription text).1.graph.OnGrid (Grid.assign slots f.arguments.keys) := by
  have hparse : Description.parse s.config.limits text = .ok f := by rwa [agrees.config_eq]
  cases decEq s.lastApplied (some (Text.trim text)) with
  | isTrue happlied =>
    have proper := (Description.parse_meets accepted).toProper
    have hsame := agrees.sameStructure_of_applied accepted happlied
    rw [agrees.sound.sameStructure_framework_iff proper.toDistinct] at hsame
    have hkeys (id : String) : id ∈ slots.keys ↔ id ∈ f.arguments.keys := by
      rw [grid.keys_eq agrees.sound, ← agrees.sound.keys_argumentEntries]
      exact Assoc.mem_keys_iff_of_rel (hsame.1 id)
    rw [Grid.assign_of_mem_iff hkeys, applyDescription,
      applyDescriptionWith_of_applied hparse happlied]
    exact grid
  | isFalse happlied =>
    have sound : (Overlay.clearResults s.graph).Sound :=
      agrees.sound.of_content (Overlay.content_clearResults s.graph)
    have hgrid : (Overlay.clearResults s.graph).OnGrid slots := by
      rw [Graph.OnGrid, Graph.places_clearResults]
      exact grid
    obtain ⟨es, hes, -, htarget⟩ := agrees.reconcile_eq accepted
      fun i _ => gridPosition (s.graph.nodes.length + i)
    obtain ⟨listener, features, hresult⟩ := applyDescriptionWith_of_reconciled hparse happlied hes
    have hdrawn : s.drawn (.applyDescription text) = relationsAdded es := by
      rw [drawn, perform, applyDescription, hresult]
      rfl
    rw [hdrawn] at room
    rw [applyDescription, hresult]
    change Graph.OnGrid _ (Graph.reconcile _ f _).graph
    rw [htarget room, grid.length_eq]
    exact hgrid.target sound f

/-- After every run of descriptions the arguments stand on the slots that the accepted ones
assign. -/
theorem Agrees.onGrid_run (agrees : Agrees config n s) (hpos : 1 ≤ n)
    (grid : s.graph.OnGrid slots) (texts : List String)
    (room : n + s.drawnBy (texts.map .applyDescription) ≤ Graph.lastNumber) :
    (s.run (texts.map .applyDescription)).graph.OnGrid
      ((texts.filterMap (declaredIds config.limits)).foldl Grid.assign slots) := by
  induction texts generalizing n s slots with
  | nil => exact grid
  | cons text texts ih =>
    rw [List.map_cons, drawnBy, ← Nat.add_assoc] at room
    have hroom : n + s.drawn (.applyDescription text) ≤ Graph.lastNumber :=
      Nat.le_of_add_right_le room
    have hstep : Agrees config (n + s.drawn (.applyDescription text))
        (s.perform (.applyDescription text)).1 := agrees.kept_perform _ hpos hroom
    have hperform : (s.perform (.applyDescription text)).1 = (s.applyDescription text).1 := by
      rw [perform, telling]
    rw [List.map_cons, Session.run]
    rw [hperform] at hstep room ⊢
    cases hids : declaredIds config.limits text with
    | none =>
      rw [List.filterMap_cons_none hids]
      exact ih hstep (Nat.le_add_right_of_le hpos) (onGrid_of_refused agrees grid hids) room
    | some ids =>
      obtain ⟨f, accepted, rfl, -⟩ := exists_of_declaredIds hids
      rw [List.filterMap_cons_some hids]
      exact ih hstep (Nat.le_add_right_of_le hpos) (onGrid_of_accepted agrees grid accepted hroom)
        room

/-- Where any descriptions place the arguments: on the slots that are assigned.  No two arguments
are placed on each other if and only if no slot is given twice, which cannot happen if no accepted
description leaves out an argument of the one before. -/
theorem run_placed (config : Config) (texts : List String)
    (room : (new config).drawnBy (texts.map .applyDescription) < Graph.lastNumber)
    (small : ∀ ids ∈ texts.filterMap (declaredIds config.limits), ids.length < Nat.pow 2 50) :
    let g := ((new config).run (texts.map .applyDescription)).graph
    let slots := slotsOf config.limits texts
    (g.arguments.map fun a => (a.id, a.position)) = slots.map (fun e => (e.1, gridPosition e.2)) ∧
    (g.arguments.Pairwise (fun a b => a.position.Apart b.position) ↔ (slots.map (·.2)).Nodup) ∧
    ((texts.filterMap (declaredIds config.limits)).IsChain (· ⊆ ·) →
      g.arguments.Pairwise fun a b => a.position.Apart b.position) := by
  intro g slots
  have hnew : (new config).graph.OnGrid [] := rfl
  have grid : g.OnGrid slots := (agrees_new config).onGrid_run (Nat.le_refl 1) hnew texts (by omega)
  have fits : Grid.Fits (Nat.pow 2 50) slots := by
    refine Grid.fits_assignAll fun ids hids => ⟨?_, Nat.le_of_lt (small ids hids)⟩
    obtain ⟨text, -, htext⟩ := List.mem_filterMap.1 hids
    exact (exists_of_declaredIds htext).choose_spec.2.2
  have hapart := grid.pairwise_apart_iff fun e he => fits.slot_lt e he
  exact ⟨grid, hapart, fun grows => hapart.2 (Grid.compact_assignAll grows).nodup⟩

/-- Two arguments are joined by a third one.  Between the two descriptions stands one that is
refused, and the last one is applied again with blanks around it. -/
theorem run_placed_joined :
    let texts := ["arg(b).\narg(A).", "arg(b", "arg(a).\narg(c).\narg(b).\natt(c,a).",
      " arg(a).\narg(c).\narg(b).\natt(c,a).\n"]
    let g := ((new {}).run (texts.map .applyDescription)).graph
    ((new {}).drawnBy (texts.map .applyDescription) < Graph.lastNumber ∧
      (∀ ids ∈ texts.filterMap (declaredIds {}), ids.length < Nat.pow 2 50) ∧
      (texts.filterMap (declaredIds {})).IsChain (· ⊆ ·)) ∧
    (g.arguments.map fun a => (a.id, a.position)) =
      [("b", ⟨0, 0⟩), ("a", ⟨120, 0⟩), ("c", ⟨240, 0⟩)] ∧
    g.arguments.Pairwise fun a b => a.position.Apart b.position := by
  intro texts g
  have room : (new {}).drawnBy (texts.map .applyDescription) < Graph.lastNumber := by
    decide +kernel
  have hids : texts.filterMap (declaredIds {}) = [["b", "a"], ["a", "c", "b"], ["a", "c", "b"]] := by
    decide +kernel
  have small : ∀ ids ∈ texts.filterMap (declaredIds {}), ids.length < Nat.pow 2 50 := by
    rw [hids]
    decide
  have grows : (texts.filterMap (declaredIds {})).IsChain (· ⊆ ·) := by
    rw [hids]
    decide
  obtain ⟨hplaces, -, happart⟩ := run_placed {} texts room small
  have hgrid : ((slotsOf {} texts).map fun e => (e.1, gridPosition e.2)) =
      [("b", ⟨0, 0⟩), ("a", ⟨120, 0⟩), ("c", ⟨240, 0⟩)] := by
    decide +kernel
  exact ⟨⟨room, small, grows⟩, hplaces.trans hgrid, happart grows⟩

/-- The first of two arguments is left out, and then another one comes.  It is placed on the
second one, which has stayed on the second slot. -/
theorem placed_twice :
    let texts := ["arg(a).\narg(b).", "arg(b).", "arg(b).\narg(c)."]
    let g := ((new {}).run (texts.map .applyDescription)).graph
    texts.filterMap (declaredIds {}) = [["a", "b"], ["b"], ["b", "c"]] ∧
    (g.arguments.map fun a => (a.id, a.position)) = [("b", ⟨120, 0⟩), ("c", ⟨120, 0⟩)] ∧
    ¬ g.arguments.Pairwise fun a b => a.position.Apart b.position := by
  decide +kernel

end Session

end Argumentation
