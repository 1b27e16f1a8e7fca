import Argumentation.Proofs.Graph.Lookup
import Argumentation.Proofs.Indexed.Run

/-!
# Identifiers that lead to slots

In an indexed graph an identifier leads to an argument by way of a slot.  `Filed` says that the
index leads from each identifier to the slot of the argument that carries it, and that these
identifiers are canonical.  Every operation keeps this, whether it is done, refused or stops
half-way, and it asks for no numbers of relations (`Filed.perform`).

So the identifier that an argument carries leads to this argument, as does every other one of the
same canonical form (`Filed.finds_iff`).  What an argument is removed or renamed with are its
relations, which are reached by their numbers; as long as numbers are left, both come out as they
do for a graph.

Main statement: `run_finds_stored`.
-/

namespace Argumentation

open Arena

variable {G : Type} [Arena Argument Relation G]

namespace IndexedGraph

variable {x y : IndexedGraph G}

/-- Whether an identifier leads to an argument. -/
structure Finds (x : IndexedGraph G) (id : String) (a : Argument) : Prop where
  /-- The index leads to the slot of the argument. -/
  slot : ∃ i, x.index[canonicalId id]? = some i ∧ node? x.arena i = some a
  /-- The argument is the one that is shown. -/
  argument : x.argument? id = some a
  /-- There is an argument of this identifier. -/
  contains : canonicalId id ∈ x.index
  /-- The argument is the only one that is changed in place. -/
  modified : ∀ f,
    (x.modifyArgument id f).arguments = x.arguments.map fun b => if b = a then f b else b

/-- Whether the index files each argument under its own canonical identifier. -/
structure Filed (x : IndexedGraph G) : Prop where
  /-- An identifier leads to the slot of the argument that carries it. -/
  index_iff : ∀ id i, x.index[id]? = some i ↔ ∃ a, node? x.arena i = some a ∧ a.id = id
  /-- Identifiers are canonical. -/
  canonical : ∀ i a, node? x.arena i = some a → IsCanonical a.id

theorem filed_empty [LawfulArena G] : ({} : IndexedGraph G).Filed where
  index_iff id i := by
    constructor
    · intro h
      rw [Std.TreeMap.getElem?_emptyc] at h
      cases h
    · rintro ⟨a, ha, -⟩
      rw [LawfulArena.node?_empty] at ha
      cases ha
  canonical i a h := by
    rw [LawfulArena.node?_empty] at h
    cases h

namespace Filed

variable (filed : x.Filed)
include filed

/-! ## What keeps arguments filed -/

/-- Relations have no part in it. -/
theorem of_nodes (hindex : y.index = x.index) (hnode : ∀ i, node? y.arena i = node? x.arena i) :
    y.Filed where
  index_iff id i := by
    rw [hindex, hnode]
    exact filed.index_iff id i
  canonical i a h := filed.canonical i a ((hnode i).symm.trans h)

/-- Arguments are overwritten in their slots.  They keep their identifiers. -/
theorem overwrite {arena : G} (change : Nat → Argument → Argument)
    (hnode : ∀ i, node? arena i = (node? x.arena i).map (change i))
    (hid : ∀ i a, (change i a).id = a.id) : ({ x with arena } : IndexedGraph G).Filed where
  index_iff id i := by
    rw [filed.index_iff, hnode]
    cases node? x.arena i with
    | none => simp
    | some a => simp [hid]
  canonical i a h := by
    rw [hnode] at h
    obtain ⟨b, hb, rfl⟩ := Option.map_eq_some_iff.1 h
    rw [hid]
    exact filed.canonical i b hb

theorem isSome_node? {k : String} {i : Nat} (h : x.index[k]? = some i) :
    (node? x.arena i).isSome := by
  obtain ⟨a, ha, -⟩ := (filed.index_iff k i).1 h
  rw [ha]
  rfl

variable [LawfulArena G]

/-- An argument is put at the end under a new canonical identifier. -/
theorem addArgument {a : Argument} (hcanonical : IsCanonical a.id) (hnew : a.id ∉ x.index) :
    (x.addArgument a).Filed where
  index_iff id i := by
    have hvacant := LawfulArena.vacant_addNode x.arena a
    rw [IndexedGraph.addArgument, getElem?_insert_eq, LawfulArena.node?_addNode]
    by_cases hslot : i = (addNode x.arena a).1
    · rw [if_pos hslot]
      by_cases hid : id = a.id
      · simp [hid, hslot]
      · rw [if_neg hid, filed.index_iff, hslot, hvacant]
        simpa using Ne.symm hid
    · rw [if_neg hslot, ← filed.index_iff]
      by_cases hid : id = a.id
      · rw [if_pos hid, hid, Std.TreeMap.getElem?_eq_none hnew]
        simpa using Ne.symm hslot
      · rw [if_neg hid]
  canonical i b h := by
    rw [IndexedGraph.addArgument, LawfulArena.node?_addNode] at h
    split at h
    · cases h
      exact hcanonical
    · exact filed.canonical i b h

/-- An argument is taken out of its slot. -/
theorem dropArgument {id : String} {i : Nat} (hi : x.index[id]? = some i) :
    (x.dropArgument id i).Filed where
  index_iff k j := by
    rw [IndexedGraph.dropArgument, getElem?_erase_eq, LawfulArena.node?_removeNode]
    obtain ⟨a, ha, hid⟩ := (filed.index_iff id i).1 hi
    by_cases hslot : j = i
    · rw [if_pos hslot]
      by_cases hk : k = id
      · simp [hk]
      · rw [if_neg hk, filed.index_iff, hslot, ha]
        simpa [hid] using Ne.symm hk
    · rw [if_neg hslot, ← filed.index_iff]
      by_cases hk : k = id
      · rw [if_pos hk, hk, hi]
        simpa using Ne.symm hslot
      · rw [if_neg hk]
  canonical j b h := by
    rw [IndexedGraph.dropArgument, LawfulArena.node?_removeNode] at h
    split at h
    · cases h
    · exact filed.canonical j b h

/-! ## Changes of single entries -/

theorem modifyArgument (id : String) {f : Argument → Argument} (hid : ∀ a, (f a).id = a.id) :
    (x.modifyArgument id f).Filed := by
  unfold IndexedGraph.modifyArgument
  split
  · exact filed
  · next i _ =>
    refine filed.overwrite (fun j a => if j = i then f a else a) (fun j => ?_) fun j a => ?_
    · rw [LawfulArena.node?_modifyNode]
      split
      · rfl
      · exact Option.map_id'.symm
    · split
      · exact hid a
      · rfl

theorem mapArguments {f : Argument → Argument} (hid : ∀ a, (f a).id = a.id) :
    (x.mapArguments f).Filed :=
  filed.overwrite (fun _ => f) (LawfulArena.node?_mapNodes x.arena f) fun _ => hid

theorem setArgumentWeight (id : String) (w : Option Binary64) :
    (x.setArgumentWeight id w).1.Filed := by
  unfold IndexedGraph.setArgumentWeight
  split
  · exact filed
  · split
    · exact filed
    · exact filed.modifyArgument id fun _ => rfl

theorem insertArgument (a : Argument) : (x.insertArgument a).graph.Filed := by
  unfold IndexedGraph.insertArgument
  dsimp only
  split
  · exact filed
  · next hnew => exact filed.addArgument (isCanonical_canonicalId a.id) hnew

theorem attach (r : Relation) : (x.attach r).graph.Filed := by
  unfold IndexedGraph.attach
  split
  · next s t hs ht =>
    exact filed.of_nodes rfl fun i =>
      LawfulArena.node?_addEdge x.arena s t r i (filed.isSome_node? hs) (filed.isSome_node? ht)
  · exact filed

theorem reattach (e : Nat) (r : Relation) : (x.reattach e r).graph.Filed := by
  have hremoved : ({ x with arena := removeEdge x.arena e } : IndexedGraph G).Filed :=
    filed.of_nodes rfl (LawfulArena.node?_removeEdge x.arena e)
  exact hremoved.attach r

theorem modifyRelation (e : Nat) (f : Relation → Relation) : (x.modifyRelation e f).Filed :=
  filed.of_nodes rfl (LawfulArena.node?_modifyEdge x.arena e f)

theorem insertRelation (key : RelationKey) (w : Option Binary64) :
    (x.insertRelation key w).graph.Filed := by
  have hdrawn : ({ x with counter := x.counter.generate.2 } : IndexedGraph G).Filed :=
    filed.of_nodes rfl fun _ => rfl
  unfold IndexedGraph.insertRelation
  dsimp only
  split
  · exact filed
  · split
    · exact filed
    · split
      · exact filed
      · exact hdrawn.attach _

theorem removeRelation (id : RelationId) : (x.removeRelation id).graph.Filed := by
  unfold IndexedGraph.removeRelation
  split
  · exact filed
  · exact filed.of_nodes rfl (LawfulArena.node?_removeEdge x.arena _)

theorem setRelationWeight (id : RelationId) (w : Option Binary64) :
    (x.setRelationWeight id w).1.Filed := by
  unfold IndexedGraph.setRelationWeight
  split
  · exact filed
  · split
    · exact filed
    · exact filed.modifyRelation _ _

theorem setRelationKind (id : RelationId) (kind : RelationKind) :
    (x.setRelationKind id kind).graph.Filed := by
  unfold IndexedGraph.setRelationKind
  split
  · exact filed
  · dsimp only
    split
    · exact filed
    · split
      · exact filed
      · exact filed.modifyRelation _ _

theorem reverseRelation (id : RelationId) : (x.reverseRelation id).graph.Filed := by
  unfold IndexedGraph.reverseRelation
  split
  · exact filed
  · dsimp only
    split
    · exact filed.reattach _ _
    · split
      · exact filed.reattach _ _
      · exact filed

/-! ## Arguments with their relations -/

/-- Relations that are there go, and the first one that is not stops the rest. -/
theorem removeRelations (ids : List RelationId) : (x.removeRelations ids).graph.Filed := by
  induction ids generalizing x with
  | nil => exact filed
  | cons id ids ih =>
    exact Attempt.graph_andThen (P := Filed) (Q := Filed) (filed.removeRelation id) (fun _ h => h)
      fun _ _ h => ih h

theorem removeArgument (id : String) : (x.removeArgument id).graph.Filed := by
  unfold IndexedGraph.removeArgument
  dsimp only
  split
  · exact filed
  · next i hi =>
    refine Attempt.graph_andThen (P := fun y => y.Filed ∧ y.index = x.index) (Q := Filed)
      ⟨filed.removeRelations _, index_removeRelations x _⟩ (fun _ h => h.1) fun y _ h => ?_
    exact h.1.dropArgument (h.2 ▸ hi)

theorem moveRelations (old new : String) (ids : List RelationId) :
    (x.moveRelations old new ids).graph.Filed := by
  induction ids generalizing x with
  | nil => exact filed
  | cons id ids ih =>
    refine Attempt.graph_andThen (P := Filed) (Q := Filed) ?_ (fun _ h => h) fun _ _ h => ih h
    unfold moveRelation
    split
    · exact filed
    · exact filed.reattach _ _

theorem replaceArgument {old : String} {i : Nat} {a : Argument} (hi : x.index[old]? = some i)
    (hcanonical : IsCanonical a.id) (hnew : a.id ∉ x.index) :
    (x.replaceArgument old i a).graph.Filed := by
  have hne : old ≠ a.id := by
    rintro rfl
    exact hnew (exists_entry_iff.2 ⟨i, hi⟩)
  have hadded := filed.addArgument hcanonical hnew
  refine Attempt.graph_andThen (P := fun y => y.Filed ∧ y.index = (x.addArgument a).index)
    (Q := Filed) ⟨hadded.moveRelations old a.id _, index_moveRelations _ _ _ _⟩ (fun _ h => h.1)
    fun y _ h => h.1.dropArgument ?_
  rw [h.2, IndexedGraph.addArgument, getElem?_insert_eq, if_neg hne, hi]

theorem renameArgument (id newId : String) : (x.renameArgument id newId).graph.Filed := by
  unfold IndexedGraph.renameArgument
  dsimp only
  split
  · exact filed
  · split
    · exact filed
    · next hnew =>
      split
      · exact filed
      · next i hi =>
        split
        · exact filed
        · exact filed.replaceArgument hi (isCanonical_canonicalId newId) hnew

end Filed

/-! ## Reconciliations -/

section Reconciling

open Reconcile (Placement Step)

theorem Progress.graph_after {α : Type} (p : Progress G) (r : Attempt G α)
    (events : α → List Event) (placed : List String) :
    (p.after r events placed).1.graph = r.graph := by
  obtain ⟨y, e | a⟩ := r <;> rfl

variable [LawfulArena G] {p : Progress G} (place : Placement)

theorem filed_takeStep (filed : p.graph.Filed) (s : Step) :
    (takeStep place p s).1.graph.Filed := by
  cases s with
  | removeArgument id =>
    rw [takeStep, Progress.graph_after]
    exact filed.removeArgument id
  | removeRelation id =>
    rw [takeStep, Progress.graph_after]
    exact filed.removeRelation id
  | putArgument id w =>
    rw [takeStep]
    split
    · exact filed.setArgumentWeight id w
    · rw [Progress.graph_after]
      exact filed.insertArgument _
  | putRelation key w =>
    rw [takeStep]
    split
    · exact filed.setRelationWeight _ w
    · rw [Progress.graph_after]
      exact filed.insertRelation key w

/-- Steps keep the arguments filed, up to the one that is refused. -/
theorem filed_takeSteps (filed : p.graph.Filed) (ss : List Step) :
    (takeSteps place p ss).1.graph.Filed := by
  induction ss generalizing p with
  | nil => exact filed
  | cons s ss ih =>
    have hstep := filed_takeStep place filed s
    rw [takeSteps]
    split
    · next heq =>
      rw [heq] at hstep
      exact ih hstep
    · next heq => rwa [heq] at hstep

theorem filed_takeRows (filed : p.graph.Filed) (rs : List (IndexedGraph G → List Step)) :
    (takeRows place p rs).1.graph.Filed := by
  induction rs generalizing p with
  | nil => exact filed
  | cons row rs ih =>
    have hrow := filed_takeSteps place filed (row p.graph)
    rw [takeRows]
    split
    · next heq =>
      rw [heq] at hrow
      exact ih hrow
    · next heq => rwa [heq] at hrow

/-- A reconciliation keeps the arguments filed, even one that is refused half-way. -/
theorem filed_reconcile (filed : x.Filed) (f : Framework) :
    (x.reconcile f place).graph.Filed := by
  unfold reconcile
  split
  · exact filed
  · have hrows := filed_takeRows (p := { graph := x }) place filed (rows f)
    split
    · next heq =>
      rw [heq] at hrows
      exact hrows.of_nodes rfl fun _ => rfl
    · next heq => rwa [heq] at hrows

end Reconciling

namespace Filed

variable [LawfulArena G] (filed : x.Filed)
include filed

/-! ## Operations -/

/-- Every operation keeps the arguments filed, whatever its outcome is. -/
theorem perform (op : Graph.Operation) : (x.perform op).graph.Filed := by
  cases op with
  | insertArgument a => exact filed.insertArgument a
  | removeArgument id => exact filed.removeArgument id
  | renameArgument id newId => exact filed.renameArgument id newId
  | setArgumentWeight id w => exact filed.setArgumentWeight id w
  | changeArgument id change => exact filed.modifyArgument id (Graph.id_keepingId change)
  | changeArguments change => exact filed.mapArguments (Graph.id_keepingId change)
  | insertRelation key w => exact filed.insertRelation key w
  | removeRelation id => exact filed.removeRelation id
  | setRelationWeight id w => exact filed.setRelationWeight id w
  | setRelationKind id kind => exact filed.setRelationKind id kind
  | reverseRelation id => exact filed.reverseRelation id
  | reseed => exact filed.of_nodes rfl fun _ => rfl
  | clear => exact filed_empty
  | reconcile f place => exact filed_reconcile place filed f

theorem run (ops : List Graph.Operation) : (x.run ops).Filed := by
  induction ops generalizing x with
  | nil => exact filed
  | cons op ops ih => exact ih (filed.perform op)

/-! ## What identifiers lead to -/

variable {a : Argument} {id : String}

omit [LawfulArena G] in
/-- An argument is told by its slot. -/
theorem slot_iff {i j : Nat} {b : Argument} (hi : node? x.arena i = some a)
    (hj : node? x.arena j = some b) : j = i ↔ b = a := by
  constructor
  · rintro rfl
    exact Option.some.inj (hj.symm.trans hi)
  · rintro rfl
    have hentry := (filed.index_iff b.id j).2 ⟨b, hj, rfl⟩
    exact Option.some.inj (hentry.symm.trans ((filed.index_iff b.id i).2 ⟨b, hi, rfl⟩))

theorem arguments_modifyArgument {i : Nat} (hi : x.index[canonicalId id]? = some i)
    (ha : node? x.arena i = some a) (f : Argument → Argument) :
    (x.modifyArgument id f).arguments = x.arguments.map fun b => if b = a then f b else b := by
  rw [IndexedGraph.modifyArgument, hi]
  simp only [arguments, List.map_filterMap]
  refine List.filterMap_congr fun j _ => ?_
  rw [LawfulArena.node?_modifyNode]
  cases hj : node? x.arena j with
  | none => simp
  | some b =>
    rw [Option.map_some, Option.map_some]
    simp only [filed.slot_iff ha hj]
    split <;> rfl

/-- An argument is found by every identifier that has its own one as canonical form. -/
theorem finds (ha : a ∈ x.arguments) (hid : canonicalId id = a.id) : x.Finds id a := by
  obtain ⟨i, -, hi⟩ := List.mem_filterMap.1 ha
  have hentry : x.index[canonicalId id]? = some i := (filed.index_iff _ i).2 ⟨a, hi, hid.symm⟩
  refine ⟨⟨i, hentry, hi⟩, ?_, exists_entry_iff.2 ⟨i, hentry⟩,
    filed.arguments_modifyArgument hentry hi⟩
  rw [argument?, hentry, Option.bind_some, hi]

/-- An argument is found by those identifiers that have its own one as canonical form, and by no
others. -/
theorem finds_iff (ha : a ∈ x.arguments) : x.Finds id a ↔ canonicalId id = a.id := by
  refine ⟨fun finds => ?_, filed.finds ha⟩
  obtain ⟨i, hentry, hi⟩ := finds.slot
  obtain ⟨b, hb, hid⟩ := (filed.index_iff _ i).1 hentry
  rw [← hid, Option.some.inj (hb.symm.trans hi)]

omit [LawfulArena G] in
theorem canonicalId_argument (ha : a ∈ x.arguments) : canonicalId a.id = a.id := by
  obtain ⟨i, -, hi⟩ := List.mem_filterMap.1 ha
  exact filed.canonical i a hi

/-- An argument is found by the identifier that it carries. -/
theorem finds_self (ha : a ∈ x.arguments) : x.Finds a.id a :=
  filed.finds ha (filed.canonicalId_argument ha)

end Filed

end IndexedGraph

/-! ## Graphs that are reached -/

namespace Graph

/-- A canonical identifier is its own canonical form.  So after any operations and the insertion of
an argument, whatever identifier it was given, the identifier that an argument carries leads to
this argument, and so do those of the same canonical form and no others.  In an arena this holds
as well, and as long as numbers are left, arguments are removed and renamed as they are in the
graph. -/
theorem run_finds_stored (ops : List Operation) (a : Argument) :
    let g := run {} ops
    let g' := run {} (ops ++ [.insertArgument a])
    (∀ s, canonicalId (canonicalId s) = canonicalId s) ∧
    (g'.arguments = if g.contains a.id then g.arguments
      else g.arguments ++ [{ a with id := canonicalId a.id }]) ∧
    (∃ b ∈ g'.arguments, g'.Finds a.id b) ∧
    (∀ b ∈ g'.arguments, g'.Finds b.id b ∧ ∀ id, g'.Finds id b ↔ canonicalId id = b.id) ∧
    ∀ (G : Type) [Arena Argument Relation G] [LawfulArena G],
      let x := ({} : IndexedGraph G).run (ops ++ [.insertArgument a])
      (∀ b ∈ x.arguments, x.Finds b.id b ∧ ∀ id, x.Finds id b ↔ canonicalId id = b.id) ∧
      (({} : IndexedGraph G).drawnBy (ops ++ [.insertArgument a]) < lastNumber →
        x.Represents g' ∧ ∀ id newId,
          (x.removeArgument id).Follows x (g'.removeArgument id) ∧
          (x.renameArgument id newId).Follows x (g'.renameArgument id newId)) := by
  intro g g'
  have hlast : g' = (g.perform (.insertArgument a)).1 := run_append {} ops _
  have keyed : g'.Keyed := keyed_empty.run _
  have hmem : canonicalId a.id ∈ g'.keys := hlast ▸ canonicalId_mem_keys_insertArgument g a
  refine ⟨canonicalId_canonicalId, ?_, keyed.exists_finds hmem,
    fun b hb => ⟨keyed.finds_self hb, fun id => keyed.finds_iff hb⟩, fun G _ _ => ?_⟩
  · rw [hlast, arguments_insertArgument]
  · intro x
    have filed : x.Filed := IndexedGraph.filed_empty.run _
    refine ⟨fun b hb => ⟨filed.finds_self hb, fun id => filed.finds_iff hb⟩, fun room => ?_⟩
    obtain ⟨rep, hdrawn⟩ := IndexedGraph.represents_run_empty _ room
    rw [hdrawn] at room
    obtain ⟨sound, -⟩ := run_sound _ room
    exact ⟨rep, fun id newId =>
      ⟨rep.follows_removeArgument sound id, rep.follows_renameArgument sound id newId⟩⟩

/-- A dotted capital I makes two characters, and the sigma after it is a final one. -/
theorem run_finds_stored_sigma :
    let a : Argument := { id := "\u3000İΣ\n", weight := some (1 / 2) }
    let b : Argument := { a with id := "i\u0307ς" }
    let ops : List Operation :=
      [.insertArgument { id := "ΣΟΣ" }, .insertArgument { id := "Z" },
        .insertRelation ⟨.attack, "σος", "z"⟩ none, .renameArgument "z" " ΟΔΌΣ"]
    let g := run {} (ops ++ [.insertArgument a])
    let x := ({} : IndexedGraph (SlotArena Argument Relation)).run (ops ++ [.insertArgument a])
    (b ∈ g.arguments ∧ b ∈ x.arguments ∧
        ({} : IndexedGraph (SlotArena Argument Relation)).drawnBy (ops ++ [.insertArgument a]) <
          lastNumber) ∧
      g.arguments.map (·.id) = ["σος", "οδός", "i\u0307ς"] ∧
      (g.Finds "i\u0307ς" b ∧ g.Finds "İΣ" b ∧ ¬ g.Finds "iς" b) ∧
      (x.Finds "i\u0307ς" b ∧ x.Finds "İΣ" b) ∧
      (x.removeArgument "i\u0307ς").Follows x (g.removeArgument "i\u0307ς") := by
  intro a b ops g x
  obtain ⟨-, -, -, hfinds, hindexed⟩ := run_finds_stored ops a
  obtain ⟨hslots, hfollows⟩ := hindexed (SlotArena Argument Relation)
  have hg : b ∈ g.arguments := by decide +kernel
  have hx : b ∈ x.arguments := by decide +kernel
  have room : ({} : IndexedGraph (SlotArena Argument Relation)).drawnBy
      (ops ++ [.insertArgument a]) < lastNumber := by decide +kernel
  obtain ⟨hself, hothers⟩ := hfinds b hg
  obtain ⟨hslot, hslots⟩ := hslots b hx
  have hsame : canonicalId "İΣ" = b.id := by decide +kernel
  have hdiffer : canonicalId "iς" ≠ b.id := by decide +kernel
  exact ⟨⟨hg, hx, room⟩, by decide +kernel,
    ⟨hself, (hothers _).2 hsame, fun finds => hdiffer ((hothers _).1 finds)⟩,
    ⟨hslot, (hslots _).2 hsame⟩, ((hfollows room).2 _ "").1⟩

end Graph

end Argumentation
