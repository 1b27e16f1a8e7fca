import Argumentation.Proofs.Indexed.Operations

/-!
# Runs of indexed graphs

An operation of an indexed graph that represents a sound graph comes out as that of the graph and
leaves an indexed graph that represents the graph that is left (`matches_perform`).  A
reconciliation takes the same steps in the same rows, and stops, if it does, at the same step
(`tracks_takeRows`), so the two agree even on what is left half-way.

What holds of a single operation holds of a run from the empty graph (`represents_run`), and both
runs draw the same numbers.
-/

namespace Argumentation

variable {G : Type} [Arena Argument Relation G]

/-- Whether an operation came out as it does for a graph. -/
structure Attempt.Matches (r : Attempt G (List Event)) (s : Graph × Except Error (List Event)) :
    Prop where
  /-- The graph that is left is represented. -/
  rep : r.graph.Represents s.1
  /-- The outcome is the same. -/
  outcome : r.outcome = s.2

theorem Attempt.map_id {α : Type} (r : Attempt G α) : (r.map fun a => a) = r := by
  obtain ⟨x, e | a⟩ := r <;> rfl

/-- A change that is made as a whole or not at all. -/
theorem Attempt.Follows.matches {α : Type} {r : Attempt G α} {x : IndexedGraph G} {g : Graph}
    {change : Except Error (Graph × α)} (follows : r.Follows x change) (rep : x.Represents g)
    (events : α → List Event) :
    (r.map events).Matches (g.settle (change.map fun m => (m.1, events m.2))) := by
  cases follows with
  | made h rep =>
    rw [h]
    exact ⟨rep, rfl⟩
  | refused h =>
    rw [h]
    exact ⟨rep, rfl⟩

namespace IndexedGraph

open Arena
open Argumentation.Graph (lastNumber)
open Reconcile (Placement Step)

/-! ## Steps of a reconciliation -/

section Reconciling

variable {p p' : Progress G} {q q' : Reconcile.Progress} {place : Placement}

/-- Whether a progress over an indexed graph is a progress over a graph. -/
structure Progress.Tracks (p : Progress G) (q : Reconcile.Progress) : Prop where
  /-- The graph is represented. -/
  rep : p.graph.Represents q.graph
  /-- The events are the same. -/
  events : p.events = q.events
  /-- The same arguments were placed. -/
  placed : p.placed = q.placed

/-- A step that comes out as a step of a reconciliation does. -/
inductive StepFollows (r : Progress G × Option Error) (q : Reconcile.Progress) :
    Except Error Reconcile.Progress → Prop where
  /-- The step is taken. -/
  | taken {p' : Progress G} {q' : Reconcile.Progress} (h : r = (p', none))
    (tracks : p'.Tracks q') : StepFollows r q (.ok q')
  /-- The step is refused, and nothing is changed. -/
  | refused {p' : Progress G} {e : Error} (h : r = (p', some e)) (tracks : p'.Tracks q) :
    StepFollows r q (.error e)

/-- An attempt that follows a change is a step that follows one. -/
theorem Progress.Tracks.after {α : Type} (tracks : p.Tracks q) {r : Attempt G α}
    {change : Except Error (Graph × α)} (follows : r.Follows p.graph change)
    (events : α → List Event) (placed : List String) :
    StepFollows (p.after r events placed) q
      (change.map fun m => ⟨m.1, q.events ++ events m.2, q.placed ++ placed⟩) := by
  cases follows with
  | made h rep =>
    rw [h]
    refine .taken rfl ⟨rep, ?_, ?_⟩
    · rw [tracks.events]
    · rw [tracks.placed]
  | refused h =>
    rw [h]
    exact .refused rfl tracks

theorem follows_putArgument [LawfulArena G] (tracks : p.Tracks q) (id : String)
    (w : Option Binary64) :
    StepFollows (takeStep place p (.putArgument id w)) q (Step.run place q (.putArgument id w)) := by
  cases hc : q.graph.contains id with
  | true =>
    obtain ⟨hrep, hevent⟩ := tracks.rep.setArgumentWeight id w
    have hmem := tracks.rep.mem_index_iff.2 (Graph.contains_iff.1 hc)
    simp only [takeStep, hmem, if_true, Step.run, hc]
    refine .taken rfl ⟨hrep, ?_, tracks.placed⟩
    rw [tracks.events, hevent]
  | false =>
    have hmem : canonicalId id ∉ p.graph.index := fun h => by
      rw [Graph.contains_iff.2 (tracks.rep.mem_index_iff.1 h)] at hc
      cases hc
    have follows := tracks.after (tracks.rep.follows_insertArgument
      { id, weight := w, position := place p.placed.length id }) (fun e => [e]) [id]
    rw [tracks.placed] at follows
    simp only [takeStep, hmem, if_false, Step.run, hc, Bool.false_eq_true, tracks.placed]
    cases hi : q.graph.insertArgument
        { id, weight := w, position := place q.placed.length id } with
    | error e =>
      rw [hi] at follows
      exact follows
    | ok m =>
      rw [hi] at follows
      exact follows

theorem follows_putRelation [LawfulArena G] (tracks : p.Tracks q) (sound : q.graph.Sound)
    (key : RelationKey) (w : Option Binary64) :
    StepFollows (takeStep place p (.putRelation key w)) q
      (Step.run place q (.putRelation key w)) := by
  cases hf : q.graph.findRelation? key with
  | some id =>
    obtain ⟨hrep, hevent⟩ := tracks.rep.setRelationWeight id w
    simp only [takeStep, tracks.rep.findRelation?_eq sound, hf, Step.run]
    refine .taken rfl ⟨hrep, ?_, tracks.placed⟩
    rw [tracks.events, hevent]
  | none =>
    have follows := tracks.after (tracks.rep.follows_insertRelation sound key w)
      (fun id => [.relationAdded id]) []
    rw [List.append_nil] at follows
    simp only [takeStep, tracks.rep.findRelation?_eq sound, hf, Step.run]
    cases hi : q.graph.insertRelation key w with
    | error e =>
      rw [hi] at follows
      exact follows
    | ok m =>
      rw [hi] at follows
      exact follows

/-- Each step of a reconciliation is one in place. -/
theorem follows_takeStep [LawfulArena G] (tracks : p.Tracks q) (sound : q.graph.Sound) (s : Step) :
    StepFollows (takeStep place p s) q (s.run place q) := by
  cases s with
  | removeArgument id =>
    have follows := tracks.after (tracks.rep.follows_removeArgument sound id) (fun es => es) []
    have hrun : Step.run place q (.removeArgument id) = (q.graph.removeArgument id).map
        fun m => ⟨m.1, q.events ++ m.2, q.placed ++ []⟩ := by
      rw [List.append_nil, Step.run]
      cases q.graph.removeArgument id <;> rfl
    rw [hrun]
    exact follows
  | removeRelation id =>
    have follows := tracks.after (tracks.rep.follows_removeRelation id) (fun e => [e]) []
    have hrun : Step.run place q (.removeRelation id) = (q.graph.removeRelation id).map
        fun m => ⟨m.1, q.events ++ [m.2], q.placed ++ []⟩ := by
      rw [List.append_nil, Step.run]
      cases q.graph.removeRelation id <;> rfl
    rw [hrun]
    exact follows
  | putArgument id w => exact follows_putArgument tracks id w
  | putRelation key w => exact follows_putRelation tracks sound key w

/-! ## Rows of steps -/

theorem Progress.events_after {α : Type} (p : Progress G) (r : Attempt G α)
    (events : α → List Event) (placed : List String) :
    ∃ es, (p.after r events placed).1.events = p.events ++ es := by
  obtain ⟨x, e | a⟩ := r
  · exact ⟨[], (List.append_nil _).symm⟩
  · exact ⟨events a, rfl⟩

theorem events_takeStep (place : Placement) (p : Progress G) (s : Step) :
    ∃ es, (takeStep place p s).1.events = p.events ++ es := by
  cases s with
  | removeArgument id => exact p.events_after _ _ _
  | removeRelation id => exact p.events_after _ _ _
  | putArgument id w =>
    rw [takeStep]
    split
    · exact ⟨_, rfl⟩
    · exact p.events_after _ _ _
  | putRelation key w =>
    rw [takeStep]
    split
    · exact ⟨_, rfl⟩
    · exact p.events_after _ _ _

theorem events_takeSteps (place : Placement) (p : Progress G) (ss : List Step) :
    ∃ es, (takeSteps place p ss).1.events = p.events ++ es := by
  induction ss generalizing p with
  | nil => exact ⟨[], (List.append_nil _).symm⟩
  | cons s ss ih =>
    obtain ⟨es, hes⟩ := events_takeStep place p s
    rw [takeSteps]
    cases hs : takeStep place p s with
    | mk p' stopped =>
      rw [hs] at hes
      cases stopped with
      | some e => exact ⟨es, hes⟩
      | none =>
        obtain ⟨ds, hds⟩ := ih p'
        exact ⟨es ++ ds, by rw [hds, hes, List.append_assoc]⟩

theorem events_takeRows (place : Placement) (p : Progress G)
    (rs : List (IndexedGraph G → List Step)) :
    ∃ es, (takeRows place p rs).1.events = p.events ++ es := by
  induction rs generalizing p with
  | nil => exact ⟨[], (List.append_nil _).symm⟩
  | cons row rs ih =>
    obtain ⟨es, hes⟩ := events_takeSteps place p (row p.graph)
    rw [takeRows]
    cases hs : takeSteps place p (row p.graph) with
    | mk p' stopped =>
      rw [hs] at hes
      cases stopped with
      | some e => exact ⟨es, hes⟩
      | none =>
        obtain ⟨ds, hds⟩ := ih p'
        exact ⟨es ++ ds, by rw [hds, hes, List.append_assoc]⟩

variable {n : Nat} {es : List Event}

/-- Steps are taken up to the same one.  The graphs in between are sound as long as numbers are
left. -/
theorem tracks_takeSteps [LawfulArena G] (tracks : p.Tracks q) (sound : q.graph.Sound)
    (hpos : 1 ≤ n) (hnext : q.graph.counter.next.toNat ≤ n) (ss : List Step)
    (hes : (takeSteps place p ss).1.events = p.events ++ es)
    (room : n + relationsAdded es ≤ lastNumber) :
    (takeSteps place p ss).1.Tracks (Reconcile.run place q ss).1 ∧
      (takeSteps place p ss).2 = (Reconcile.run place q ss).2 := by
  induction ss generalizing p q n es with
  | nil => exact ⟨tracks, rfl⟩
  | cons s ss ih =>
    have follows : StepFollows (takeStep place p s) q (s.run place q) :=
      follows_takeStep tracks sound s
    cases hs : s.run place q with
    | error e =>
      rw [hs] at follows
      cases follows with
      | refused h tracks' =>
        simp only [takeSteps, h, Reconcile.run, hs]
        exact ⟨tracks', trivial⟩
    | ok q' =>
      rw [hs] at follows
      cases follows with
      | @taken p' _ h tracks' =>
        obtain ⟨first, change, hfirst⟩ := Step.change_of_run hs
        obtain ⟨rest, hrest⟩ := events_takeSteps place p' ss
        simp only [takeSteps, h] at hes
        rw [hrest, tracks'.events, hfirst, tracks.events, List.append_assoc,
          List.append_cancel_left_eq] at hes
        rw [← hes, relationsAdded_append, ← Nat.add_assoc] at room
        obtain ⟨hsound, hle⟩ := change.within sound hpos hnext (Nat.le_of_add_right_le room)
        simp only [takeSteps, h, Reconcile.run, hs]
        exact ih tracks' hsound (Nat.le_add_right_of_le hpos) hle hrest room

/-- Rows that are made from the graph are made from what represents it. -/
def SameRow (row : IndexedGraph G → List Step) (row' : Graph → List Step) : Prop :=
  ∀ (x : IndexedGraph G) (g : Graph), x.Represents g → g.Sound → row x = row' g

theorem sameRow_rows (f : Framework) :
    List.Forall₂ (SameRow (G := G)) (rows f) (Reconcile.rows f) := by
  refine .cons (fun x g rep _ => ?_) (.cons (fun x g rep sound => ?_)
    (.cons (fun _ _ _ _ => rfl) (.cons (fun _ _ _ _ => rfl) .nil)))
  · rw [rep.arguments_eq]
    rfl
  · rw [rep.relations_eq sound]
    rfl

/-- Rows of steps are taken up to the same step. -/
theorem tracks_takeRows [LawfulArena G] (tracks : p.Tracks q) (sound : q.graph.Sound)
    (hpos : 1 ≤ n) (hnext : q.graph.counter.next.toNat ≤ n)
    {rs : List (IndexedGraph G → List Step)} {rs' : List (Graph → List Step)}
    (hrows : List.Forall₂ SameRow rs rs')
    (hes : (takeRows place p rs).1.events = p.events ++ es)
    (room : n + relationsAdded es ≤ lastNumber) :
    (takeRows place p rs).1.Tracks (Reconcile.runRows place q rs').1 ∧
      (takeRows place p rs).2 = (Reconcile.runRows place q rs').2 := by
  induction hrows generalizing p q n es with
  | nil => exact ⟨tracks, rfl⟩
  | @cons row row' rs rs' hrow _ ih =>
    obtain ⟨first, hfirst⟩ := events_takeSteps place p (row p.graph)
    obtain ⟨first', changes, hfirst'⟩ := Reconcile.changes_run place q (row p.graph)
    have htaken := tracks_takeSteps tracks sound hpos hnext (row p.graph) hfirst
    simp only [takeRows, Reconcile.runRows, ← hrow p.graph q.graph tracks.rep sound] at hes ⊢
    generalize takeSteps place p (row p.graph) = taken at htaken hes hfirst ⊢
    generalize Reconcile.run place q (row p.graph) = run at htaken changes hfirst' ⊢
    obtain ⟨p', stopped⟩ := taken
    obtain ⟨q', stopped'⟩ := run
    cases stopped with
    | some e =>
      cases List.append_cancel_left (hfirst.symm.trans hes)
      obtain ⟨tracks', hstopped⟩ := htaken room
      cases hstopped
      exact ⟨tracks', rfl⟩
    | none =>
      obtain ⟨rest, hrest⟩ := events_takeRows place p' rs
      simp only at hes hfirst hfirst'
      rw [hrest, hfirst, List.append_assoc, List.append_cancel_left_eq] at hes
      rw [← hes, relationsAdded_append, ← Nat.add_assoc] at room
      have hroom := Nat.le_of_add_right_le room
      obtain ⟨tracks', hstopped⟩ := htaken hroom
      cases hstopped
      rw [tracks'.events, hfirst', tracks.events, List.append_cancel_left_eq] at hfirst
      rw [hfirst] at changes
      obtain ⟨hsound, hle⟩ := changes.within sound hpos hnext hroom
      exact ih tracks' hsound (Nat.le_add_right_of_le hpos) hle hrest room

end Reconciling

/-! ## Operations -/

variable {x : IndexedGraph G} {g : Graph} {n : Nat}

/-- How many numbers an operation draws from the counter.  A reconciliation that is refused
half-way has drawn those of its first steps. -/
def drawn (x : IndexedGraph G) : Graph.Operation → Nat
  | .reconcile f place =>
    match Reconcile.undeclaredEnd? f with
    | some _ => 0
    | none => relationsAdded (takeRows place { graph := x } (rows f)).1.events
  | op => Graph.told (x.perform op).outcome

/-- How many numbers some operations draw from the counter. -/
def drawnBy (x : IndexedGraph G) : List Graph.Operation → Nat
  | [] => 0
  | op :: ops => x.drawn op + (x.perform op).graph.drawnBy ops

/-- A reconciliation draws the numbers that it draws for a graph, and comes out as it does there,
even if it is refused half-way. -/
theorem matches_reconcile [LawfulArena G] (rep : x.Represents g) (sound : g.Sound) (hpos : 1 ≤ n)
    (hnext : g.counter.next.toNat ≤ n) (f : Framework) (place : Placement)
    (room : n + x.drawn (.reconcile f place) ≤ lastNumber) :
    (x.reconcile f place).Matches (g.perform (.reconcile f place)) ∧
      x.drawn (.reconcile f place) = g.drawn (.reconcile f place) := by
  simp only [drawn, Graph.drawn, reconcile, Graph.perform, Graph.reconcile] at room ⊢
  cases hu : Reconcile.undeclaredEnd? f with
  | some found => exact ⟨⟨rep, rfl⟩, rfl⟩
  | none =>
    simp only [hu] at room ⊢
    obtain ⟨es, changes, hes⟩ :=
      Reconcile.changes_runRows place { graph := g } (Reconcile.rows f)
    have tracks : ({ graph := x } : Progress G).Tracks { graph := g } := ⟨rep, rfl, rfl⟩
    obtain ⟨tracks', hstopped⟩ :=
      tracks_takeRows tracks sound hpos hnext (sameRow_rows f) rfl room
    rw [tracks'.events, hes] at room
    obtain ⟨hsound, -⟩ := changes.within sound hpos hnext room
    generalize takeRows place { graph := x } (rows f) = taken at tracks' hstopped ⊢
    generalize Reconcile.runRows place { graph := g } (Reconcile.rows f) = run
      at tracks' hstopped hsound ⊢
    obtain ⟨p, stopped⟩ := taken
    obtain ⟨q, stopped'⟩ := run
    cases hstopped
    refine ⟨?_, congrArg relationsAdded tracks'.events⟩
    cases stopped with
    | some e => exact ⟨tracks'.rep, rfl⟩
    | none => exact ⟨tracks'.rep.reseed hsound, congrArg Except.ok tracks'.events⟩

/-- An operation comes out as it does for a graph. -/
theorem matches_perform [LawfulArena G] (rep : x.Represents g) (sound : g.Sound) (hpos : 1 ≤ n)
    (hnext : g.counter.next.toNat ≤ n) (op : Graph.Operation)
    (room : n + x.drawn op ≤ lastNumber) : (x.perform op).Matches (g.perform op) := by
  cases op with
  | insertArgument a => exact (rep.follows_insertArgument a).matches rep fun event => [event]
  | removeArgument id =>
    have h := (rep.follows_removeArgument sound id).matches rep fun events => events
    rw [Attempt.map_id] at h
    exact h
  | renameArgument id newId =>
    have h := (rep.follows_renameArgument sound id newId).matches rep fun events => events
    rw [Attempt.map_id] at h
    exact h
  | setArgumentWeight id w =>
    obtain ⟨hrep, hevent⟩ := rep.setArgumentWeight id w
    exact ⟨hrep, congrArg (fun event : Option Event => Except.ok event.toList) hevent⟩
  | changeArgument id change => exact ⟨rep.modifyArgument id (Graph.id_keepingId change), rfl⟩
  | changeArguments change => exact ⟨rep.mapArguments (Graph.id_keepingId change), rfl⟩
  | insertRelation key w =>
    exact (rep.follows_insertRelation sound key w).matches rep fun id => [.relationAdded id]
  | removeRelation id => exact (rep.follows_removeRelation id).matches rep fun event => [event]
  | setRelationWeight id w =>
    obtain ⟨hrep, hevent⟩ := rep.setRelationWeight id w
    exact ⟨hrep, congrArg (fun event : Option Event => Except.ok event.toList) hevent⟩
  | setRelationKind id kind =>
    exact (rep.follows_setRelationKind sound id kind).matches rep Option.toList
  | reverseRelation id =>
    exact (rep.follows_reverseRelation sound id).matches rep fun event => [event]
  | reseed => exact ⟨rep.reseed sound, rfl⟩
  | clear => exact ⟨represents_empty, rfl⟩
  | reconcile f place => exact (matches_reconcile rep sound hpos hnext f place room).1

theorem drawn_eq [LawfulArena G] (rep : x.Represents g) (sound : g.Sound) (hpos : 1 ≤ n)
    (hnext : g.counter.next.toNat ≤ n) (op : Graph.Operation)
    (room : n + x.drawn op ≤ lastNumber) : x.drawn op = g.drawn op := by
  cases op with
  | reconcile f place => exact (matches_reconcile rep sound hpos hnext f place room).2
  | _ => simp only [drawn, Graph.drawn, (matches_perform rep sound hpos hnext _ room).outcome]

/-! ## Runs -/

/-- What holds of a single operation holds of a run. -/
theorem represents_run [LawfulArena G] (rep : x.Represents g) (sound : g.Sound) (hpos : 1 ≤ n)
    (hnext : g.counter.next.toNat ≤ n) (ops : List Graph.Operation)
    (room : n + x.drawnBy ops ≤ lastNumber) :
    (x.run ops).Represents (g.run ops) ∧ x.drawnBy ops = g.drawnBy ops := by
  induction ops generalizing x g n with
  | nil => exact ⟨rep, rfl⟩
  | cons op ops ih =>
    rw [drawnBy, ← Nat.add_assoc] at room
    have hroom := Nat.le_of_add_right_le room
    have hrep := (matches_perform rep sound hpos hnext op hroom).rep
    have hdrawn := drawn_eq rep sound hpos hnext op hroom
    obtain ⟨es, changes, hes⟩ := Graph.perform_changes g op
    rw [hdrawn, ← hes] at hroom room
    obtain ⟨hsound, hle⟩ := changes.within sound hpos hnext hroom
    obtain ⟨hrun, hrest⟩ := ih hrep hsound (Nat.le_add_right_of_le hpos) hle room
    exact ⟨hrun, by rw [drawnBy, Graph.drawnBy, hdrawn, hrest]⟩

/-- A run from the empty indexed graph represents that from the empty graph. -/
theorem represents_run_empty [LawfulArena G] (ops : List Graph.Operation)
    (room : ({} : IndexedGraph G).drawnBy ops < lastNumber) :
    (({} : IndexedGraph G).run ops).Represents (Graph.run {} ops) ∧
      ({} : IndexedGraph G).drawnBy ops = Graph.drawnBy {} ops :=
  represents_run represents_empty Graph.sound_empty (Nat.le_refl 1) (Nat.le_refl 1) ops
    (Nat.add_comm 1 _ ▸ room)

end IndexedGraph

end Argumentation
