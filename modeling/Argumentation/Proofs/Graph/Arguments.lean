import Argumentation.Proofs.Graph.Run

/-!
# Where the arguments of graphs come from

Whatever is done to a graph, every argument is found by its own canonical identifier and no two
are found by the same one (`Changes.keyed`).  Unlike soundness this needs no numbers for relations,
so it holds even where the counter has come to its end.

No change makes an argument out of nothing: it was there before, or it is one that was there but
for the field that was set, or it is the one that was inserted (`mem_of_insertArgument` and so on).
What holds of all arguments therefore holds of all arguments after a reconciliation, done or
refused half-way, if it holds of new arguments and does not mind the weights that are set
(`Reconcile.forall_reconcile`).
-/

namespace Argumentation

namespace Graph

variable {g g' : Graph}

/-! ## Identifiers -/

theorem nodes_of_insertRelation {key : RelationKey} {w : Option Binary64} {id : RelationId}
    (h : g.insertRelation key w = .ok (g', id)) : g'.nodes = g.nodes := by
  obtain ⟨-, -, -, rfl, -⟩ := insertRelation_inv h
  rfl

theorem nodes_of_removeRelation {id : RelationId} {e : Event}
    (h : g.removeRelation id = .ok (g', e)) : g'.nodes = g.nodes := by
  obtain ⟨r, -, rfl, -⟩ := removeRelation_inv h
  rfl

theorem nodes_setRelationWeight (g : Graph) (id : RelationId) (w : Option Binary64) :
    (g.setRelationWeight id w).1.nodes = g.nodes := by
  rcases setRelationWeight_cases g id w with heq | ⟨r, -, heq⟩
  · rw [heq]
  · rw [heq]
    rfl

theorem nodes_of_setRelationKind {id : RelationId} {kind : RelationKind} {e : Option Event}
    (h : g.setRelationKind id kind = .ok (g', e)) : g'.nodes = g.nodes := by
  obtain ⟨r, -, ⟨-, rfl, -⟩ | ⟨-, -, rfl, -⟩⟩ := setRelationKind_inv h
  · rfl
  · rfl

theorem nodes_of_reverseRelation {id : RelationId} {e : Event}
    (h : g.reverseRelation id = .ok (g', e)) : g'.nodes = g.nodes := by
  obtain ⟨r, -, -, rfl, -⟩ := reverseRelation_inv h
  rfl

namespace Keyed

theorem insertArgument (keyed : g.Keyed) {a : Argument} {e : Event}
    (h : g.insertArgument a = .ok (g', e)) : g'.Keyed := by
  obtain ⟨hnew, rfl, -⟩ := insertArgument_inv h
  exact keyed.append_node rfl (isCanonical_canonicalId a.id) hnew

theorem removeArgument (keyed : g.Keyed) {id : String} {es : List Event}
    (h : g.removeArgument id = .ok (g', es)) : g'.Keyed := by
  obtain ⟨-, rfl, -⟩ := removeArgument_inv h
  exact (keyed.filter_nodes (·.key ≠ canonicalId id)).of_nodes rfl

theorem renameArgument (keyed : g.Keyed) {id newId : String} {es : List Event}
    (h : g.renameArgument id newId = .ok (g', es)) : g'.Keyed := by
  rcases renameArgument_inv h with ⟨-, rfl, -⟩ | ⟨n, -, -, hnew, rfl, -⟩
  · exact keyed
  · exact keyed.renamed n (isCanonical_canonicalId newId) hnew

theorem mapArguments (keyed : g.Keyed) {f : Argument → Argument} (hf : ∀ a, (f a).id = a.id) :
    (g.mapArguments f).Keyed := keyed.of_skeleton_eq (skeleton_mapArguments g hf)

theorem modifyArgument (keyed : g.Keyed) (id : String) {f : Argument → Argument}
    (hf : ∀ a, (f a).id = a.id) : (g.modifyArgument id f).Keyed :=
  keyed.of_skeleton_eq (skeleton_modifyArgument g id hf)

/-- Every argument is found by its identifier. -/
theorem find?_of_mem (keyed : g.Keyed) {a : Argument} (ha : a ∈ g.arguments) :
    g.nodes.find? (·.key = canonicalId a.id) = some ⟨a.id, a⟩ := by
  obtain ⟨n, hn, rfl⟩ := List.mem_map.1 ha
  have hid := keyed.keyed n hn
  have hmem : canonicalId n.argument.id ∈ g.keys := by
    rw [keyed.canonicalId_argument ha, hid]
    exact List.mem_map_of_mem hn
  obtain ⟨m, hfind, hm, hkey⟩ := exists_node_of_mem hmem
  rw [keyed.canonicalId_argument ha, hid] at hkey
  rw [hfind, List.inj_on_of_nodup_map keyed.nodup hm hn hkey, hid]

/-- What is done to the entries of a graph by what they are found by is done to the arguments by
their identifiers. -/
theorem exists_of_mem_map (keyed : g.Keyed) {f : String → Argument → Argument}
    (h : g'.nodes = g.nodes.map fun n => { n with argument := f n.key n.argument }) {a : Argument}
    (ha : a ∈ g'.arguments) : ∃ b ∈ g.arguments, a = f b.id b := by
  rw [arguments, h, List.map_map] at ha
  obtain ⟨n, hn, rfl⟩ := List.mem_map.1 ha
  refine ⟨n.argument, List.mem_map_of_mem hn, ?_⟩
  rw [keyed.keyed n hn, Function.comp_apply]

end Keyed

/-- Every elementary change keeps the identifiers in order. -/
theorem Change.keyed {es : List Event} (change : Change g es g') (keyed : g.Keyed) : g'.Keyed := by
  cases change with
  | insertArgument h => exact keyed.insertArgument h
  | removeArgument h => exact keyed.removeArgument h
  | renameArgument h => exact keyed.renameArgument h
  | setArgumentWeight id w => exact keyed.of_skeleton_eq (skeleton_setArgumentWeight g id w)
  | modifyArgument id es hf => exact keyed.modifyArgument id hf
  | mapArguments hf => exact keyed.mapArguments hf
  | insertRelation h => exact keyed.of_nodes (nodes_of_insertRelation h)
  | removeRelation h => exact keyed.of_nodes (nodes_of_removeRelation h)
  | setRelationWeight id w => exact keyed.of_nodes (nodes_setRelationWeight g id w)
  | setRelationKind h => exact keyed.of_nodes (nodes_of_setRelationKind h)
  | reverseRelation h => exact keyed.of_nodes (nodes_of_reverseRelation h)
  | reseed => exact keyed.of_nodes rfl
  | clear => exact keyed_empty

theorem Changes.keyed {es : List Event} (changes : Changes g es g') (keyed : g.Keyed) :
    g'.Keyed := by
  induction changes with
  | refl => exact keyed
  | step change _ ih => exact ih (change.keyed keyed)

/-- Operations keep the identifiers in order, whatever their outcomes are. -/
theorem Keyed.run (keyed : g.Keyed) (ops : List Operation) : (g.run ops).Keyed := by
  induction ops generalizing g with
  | nil => exact keyed
  | cons op ops ih =>
    obtain ⟨es, changes, -⟩ := perform_changes g op
    exact ih (changes.keyed keyed)

/-! ## Arguments after a change -/

section Members

variable {a b : Argument} {id newId : String}

theorem arguments_of_nodes (h : g'.nodes = g.nodes) : g'.arguments = g.arguments :=
  congrArg (List.map Node.argument) h

theorem mem_of_insertArgument {e : Event} (h : g.insertArgument a = .ok (g', e))
    (hb : b ∈ g'.arguments) : b ∈ g.arguments ∨ b = { a with id := canonicalId a.id } := by
  obtain ⟨-, rfl, -⟩ := insertArgument_inv h
  rw [arguments, List.map_append] at hb
  exact (List.mem_append.1 hb).imp_right List.mem_singleton.1

theorem mem_of_removeArgument {es : List Event} (h : g.removeArgument id = .ok (g', es))
    (hb : b ∈ g'.arguments) : b ∈ g.arguments := by
  obtain ⟨-, rfl, -⟩ := removeArgument_inv h
  exact (List.filter_sublist.map _).mem hb

theorem mem_of_renameArgument {es : List Event} (h : g.renameArgument id newId = .ok (g', es))
    (hb : b ∈ g'.arguments) :
    b ∈ g.arguments ∨ ∃ a ∈ g.arguments, b = { a with id := canonicalId newId } := by
  rcases renameArgument_inv h with ⟨-, rfl, -⟩ | ⟨n, hn, -, -, rfl, -⟩
  · exact Or.inl hb
  · rw [arguments, renamed, List.map_append] at hb
    refine (List.mem_append.1 hb).imp (List.filter_sublist.map _).mem fun hnew => ?_
    exact ⟨n.argument, List.mem_map_of_mem hn, List.mem_singleton.1 hnew⟩

theorem mem_of_modifyArgument {f : Argument → Argument}
    (hb : b ∈ (g.modifyArgument id f).arguments) :
    b ∈ g.arguments ∨ ∃ a ∈ g.arguments, b = f a := by
  obtain ⟨m, hm, rfl⟩ := List.mem_map.1 hb
  obtain ⟨n, hn, rfl⟩ := List.mem_map.1 hm
  split
  · exact Or.inr ⟨n.argument, List.mem_map_of_mem hn, rfl⟩
  · exact Or.inl (List.mem_map_of_mem hn)

theorem mem_of_setArgumentWeight {w : Option Binary64}
    (hb : b ∈ (g.setArgumentWeight id w).1.arguments) :
    b ∈ g.arguments ∨ ∃ a ∈ g.arguments, b = { a with weight := w } := by
  rcases setArgumentWeight_cases g id w with heq | ⟨a, heq⟩
  · rw [heq] at hb
    exact Or.inl hb
  · rw [heq] at hb
    exact mem_of_modifyArgument hb

end Members

end Graph

/-! ## Reconciliations -/

namespace Reconcile

open Argumentation.Graph

variable {P : Argument → Prop} {place : Placement} {p q : Progress}

/-- Whether a step keeps what holds of all arguments. -/
def Step.Allows (P : Argument → Prop) : Step → Prop
  | .putArgument id w => (∀ a, P a → P { a with weight := w }) ∧
    ∀ position, P { id := canonicalId id, weight := w, position }
  | _ => True

theorem Step.forall_run {s : Step} (h : s.run place p = .ok q) (allows : s.Allows P)
    (hp : ∀ a ∈ p.graph.arguments, P a) : ∀ a ∈ q.graph.arguments, P a := by
  have hsame {g : Graph} (hnodes : g.nodes = p.graph.nodes) : ∀ a ∈ g.arguments, P a := by
    rw [arguments_of_nodes hnodes]
    exact hp
  cases Step.done_of_run h with
  | removeArgument hremove => exact fun a ha => hp a (mem_of_removeArgument hremove ha)
  | removeRelation hremove => exact hsame (nodes_of_removeRelation hremove)
  | weighArgument =>
    intro b hb
    obtain hold | ⟨a, ha, rfl⟩ := mem_of_setArgumentWeight hb
    · exact hp b hold
    · exact allows.1 a (hp a ha)
  | insertArgument _ hinsert =>
    intro b hb
    obtain hold | rfl := mem_of_insertArgument hinsert hb
    · exact hp b hold
    · exact allows.2 _
  | weighRelation => exact hsame (nodes_setRelationWeight p.graph _ _)
  | insertRelation _ hinsert => exact hsame (nodes_of_insertRelation hinsert)

theorem forall_run (place : Placement) {ss : List Step} (allows : ∀ s ∈ ss, s.Allows P)
    (hp : ∀ a ∈ p.graph.arguments, P a) : ∀ a ∈ (run place p ss).1.graph.arguments, P a := by
  induction ss generalizing p with
  | nil => exact hp
  | cons s ss ih =>
    rw [List.forall_mem_cons] at allows
    cases hs : s.run place p with
    | error e =>
      simp only [run, hs]
      exact hp
    | ok q =>
      simp only [run, hs]
      exact ih allows.2 (Step.forall_run hs allows.1 hp)

theorem forall_runRows (place : Placement) {rs : List (Graph → List Step)}
    (allows : ∀ row ∈ rs, ∀ g, ∀ s ∈ row g, s.Allows P) (hp : ∀ a ∈ p.graph.arguments, P a) :
    ∀ a ∈ (runRows place p rs).1.graph.arguments, P a := by
  induction rs generalizing p with
  | nil => exact hp
  | cons row rs ih =>
    rw [List.forall_mem_cons] at allows
    have hrow := forall_run place (allows.1 p.graph) hp
    cases hrun : run place p (row p.graph) with
    | mk q e =>
      rw [hrun] at hrow
      cases e with
      | some e =>
        simp only [runRows, hrun]
        exact hrow
      | none =>
        simp only [runRows, hrun]
        exact ih allows.2 hrow

/-- What holds of all arguments holds of all arguments after a reconciliation, even one that is
refused half-way. -/
theorem forall_reconcile {g : Graph} {f : Framework}
    (allows : ∀ e ∈ f.arguments, (Step.putArgument e.1 e.2).Allows P)
    (hg : ∀ a ∈ g.arguments, P a) : ∀ a ∈ (g.reconcile f place).graph.arguments, P a := by
  have hrows : ∀ row ∈ rows f, ∀ g, ∀ s ∈ row g, s.Allows P := by
    simp only [rows, List.forall_mem_cons]
    refine ⟨fun g => ?_, fun g => ?_, fun g => ?_, fun g => ?_, by simp⟩
    · exact List.forall_mem_map.2 fun _ _ => trivial
    · exact List.forall_mem_map.2 fun _ _ => trivial
    · exact List.forall_mem_map.2 allows
    · exact List.forall_mem_map.2 fun _ _ => trivial
  have hrun : ∀ a ∈ (runRows place { graph := g } (rows f)).1.graph.arguments, P a :=
    forall_runRows place hrows hg
  unfold Graph.reconcile
  split
  · exact hg
  · cases hp : runRows place { graph := g } (rows f) with
    | mk q e =>
      rw [hp] at hrun
      cases e <;> exact hrun

end Reconcile

end Argumentation
