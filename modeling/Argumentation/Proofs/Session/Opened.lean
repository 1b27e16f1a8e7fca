import Argumentation.Proofs.Graph.Fresh
import Argumentation.Proofs.Record.Project
import Argumentation.Proofs.Session.Naming

/-!
# Documents that are opened

A project document holds the graph twice, as the description and as the arguments and relations.
When it is imported, the description is applied first.  In a new session it fills the empty graph
(`applyDescription_of_new`).  What the description does not say is restored afterwards, the
descriptions and places of the arguments from their entries (`arguments_restore`) and the layout.
The relations of the document are passed over.

`OpenedAs` is what comes out when the document of a session is opened, and `exists_openedAs` says
that it always opens if the description of the session is accepted.
-/

namespace Argumentation

open Reconcile

namespace Session

variable {s : Session} {f : Framework}

/-! ## Arguments that are restored -/

/-- An argument with the description and the place that a document has for it. -/
def restoredBy (n : Project.Node) (a : Argument) : Argument :=
  { a with
    description := n.description.or a.description
    position := n.position.getD a.position }

/-- An argument with what some entries of a document have for its identifier. -/
def restoredFrom (nodes : List Project.Node) (id : String) (a : Argument) : Argument :=
  nodes.foldl (fun a n => if id = canonicalId n.id then restoredBy n a else a) a

theorem nodes_foldl_restoreNode (nodes : List Project.Node) (s : Session) :
    (nodes.foldl restoreNode s).graph.nodes = s.graph.nodes.map fun m =>
      { m with argument := restoredFrom nodes m.key m.argument } := by
  induction nodes generalizing s with
  | nil => exact (List.map_id _).symm
  | cons n nodes ih =>
    have hstep : (restoreNode s n).graph.nodes = s.graph.nodes.map fun m =>
        { m with argument :=
          if m.key = canonicalId n.id then restoredBy n m.argument else m.argument } := by
      refine List.map_congr_left fun m _ => ?_
      split <;> rfl
    rw [List.foldl_cons, ih, hstep, List.map_map]
    refine List.map_congr_left fun m _ => ?_
    simp only [Function.comp_apply, restoredFrom, List.foldl_cons]

theorem relations_foldl_restoreNode (nodes : List Project.Node) (s : Session) :
    (nodes.foldl restoreNode s).graph.relations = s.graph.relations := by
  induction nodes generalizing s with
  | nil => rfl
  | cons n nodes ih => exact ih (restoreNode s n)

theorem restoredFrom_of_not_mem {nodes : List Project.Node} {id : String}
    (h : ∀ n ∈ nodes, canonicalId n.id ≠ id) (a : Argument) : restoredFrom nodes id a = a := by
  induction nodes with
  | nil => rfl
  | cons n nodes ih =>
    have hne : id ≠ canonicalId n.id := (h n List.mem_cons_self).symm
    rw [restoredFrom, List.foldl_cons, if_neg hne]
    exact ih fun m hm => h m (List.mem_cons_of_mem n hm)

/-- Every argument is restored by its own entry. -/
theorem restoredFrom_of_mem {nodes : List Project.Node} {n : Project.Node} (hn : n ∈ nodes)
    (hnodup : (nodes.map (canonicalId ·.id)).Nodup) (a : Argument) :
    restoredFrom nodes (canonicalId n.id) a = restoredBy n a := by
  induction nodes generalizing a with
  | nil => cases hn
  | cons m nodes ih =>
    rw [List.map_cons, List.nodup_cons] at hnodup
    rw [restoredFrom, List.foldl_cons]
    cases List.mem_cons.1 hn with
    | inl heq =>
      rw [heq, if_pos rfl]
      refine restoredFrom_of_not_mem (fun k hk hid => hnodup.1 ?_) _
      rw [← hid]
      exact List.mem_map_of_mem hk
    | inr hmem =>
      have hne : canonicalId n.id ≠ canonicalId m.id := by
        intro heq
        refine hnodup.1 ?_
        rw [← heq]
        exact List.mem_map_of_mem hmem
      rw [if_neg hne]
      exact ih hmem hnodup.2 a

section Restore

variable (s : Session) (p : Project)

theorem graph_restore : (s.restore p).graph = (p.nodes.foldl restoreNode s).graph.reseed := by
  unfold restore
  dsimp only
  split <;> rfl

/-- Every argument is restored from the document. -/
theorem arguments_restore (sound : s.graph.Sound) : (s.restore p).graph.arguments =
    s.graph.arguments.map fun a => restoredFrom p.nodes a.id a := by
  rw [graph_restore, Graph.arguments, Graph.arguments, List.map_map]
  change (p.nodes.foldl restoreNode s).graph.nodes.map (·.argument) = _
  rw [nodes_foldl_restoreNode, List.map_map]
  refine List.map_congr_left fun m hm => ?_
  rw [Function.comp_apply, Function.comp_apply, sound.keyed m hm]

theorem relations_restore : (s.restore p).graph.relations = s.graph.relations := by
  rw [graph_restore]
  exact relations_foldl_restoreNode p.nodes s

theorem sound_restore (sound : s.graph.Sound) : (s.restore p).graph.Sound := by
  have hcontent := congrArg Session.graph (core_restore s p)
  exact sound.reseed.of_content hcontent

theorem description_restore : (s.restore p).description = s.description := by
  have hcore := congrArg Session.description (core_restore s p)
  exact hcore

theorem layout_restore : (s.restore p).layout = (nonBlank? p.layout).getD s.layout := by
  have hnodes : (p.nodes.foldl restoreNode s).layout = s.layout := by
    generalize p.nodes = nodes
    induction nodes generalizing s with
    | nil => rfl
    | cons n nodes ih => exact ih (restoreNode s n)
  unfold restore
  dsimp only
  cases nonBlank? p.layout with
  | none => exact hnodes
  | some layout => rfl

end Restore

/-! ## A description that fills a new session -/

/-- Places on the default grid, from the first one on. -/
def fromFirst : Placement := fun n _ => gridPosition (({} : Graph).nodes.length + n)

/-- A session in which the arguments and relations are those of a framework, and all else comes
from a document. -/
structure OpenedAs (s : Session) (f : Framework) (t : Session) : Prop where
  /-- The settings. -/
  config_eq : t.config = s.config
  /-- A blank description is left out. -/
  description : t.description = if Text.isBlankText s.description then "" else s.description
  /-- The name of the project. -/
  projectName : t.projectName = (new s.config).nameAfter (s.toProject "")
  /-- A blank layout is left out. -/
  layout : t.layout =
    if Text.isBlankText s.layout then s.config.defaults.layout else s.layout
  /-- The arguments are those of the framework, in its order and with what the document has for
  them. -/
  arguments : t.graph.arguments = f.arguments.mapIdx fun i e =>
    restoredFrom (s.toProject "").reread.nodes e.1
      { id := e.1, weight := e.2, position := fromFirst i e.1 }
  /-- The graph is sound. -/
  sound : t.graph.Sound
  /-- The relations are those of the framework, numbered from one in its order. -/
  relations : t.graph.relations = f.relations.mapIdx fun i e => newLink (1 + UInt64.ofNat i) e

theorem parse_of_blank {limits : Limits} {text : String} (h : Text.isBlankText text = true) :
    Description.parse limits text = .ok {} := by
  rw [← Description.parse_trim, Text.trim_eq_empty_iff.2 h]
  rfl

/-- A description that is applied first fills the empty graph. -/
theorem applyDescription_of_new {text : String} (hgraph : s.graph = {})
    (hnone : s.lastApplied = none)
    (hparse : Description.parse s.config.limits text = .ok f)
    (room : f.relations.length < Graph.lastNumber) :
    ∃ listener outcome, s.applyDescription text =
      ({ s with
        graph := (target {} f fromFirst).reseed
        description := text
        lastApplied := some (Text.trim text)
        overlay := {}
        mode := .idle
        listener }, .ok outcome) := by
  obtain ⟨⟨es, placed, hreconcile⟩, -⟩ :=
    reconcile_empty (Description.parse_meets hparse) room fromFirst
  have hclear : Overlay.clearResults s.graph = {} := by
    rw [hgraph]
    rfl
  have happlied : s.lastApplied ≠ some (Text.trim text) := by
    rw [hnone]
    exact nofun
  have hes : ((Overlay.clearResults s.graph).reconcile f fromFirst).outcome = .ok es := by
    rw [hclear, hreconcile]
  obtain ⟨listener, features, hresult⟩ :=
    applyDescriptionWith_of_reconciled hparse happlied hes
  refine ⟨listener, ⟨features, es⟩, ?_⟩
  rw [hclear, hreconcile] at hresult
  rw [applyDescription, hgraph]
  exact hresult

theorem nonBlank?_some (text : String) :
    nonBlank? (some text) = if Text.isBlankText text then none else some text := by
  rw [nonBlank?, Option.filter_some]
  cases Text.isBlankText text <;> rfl

/-- What a description leaves behind is restored from a document. -/
theorem openedAs_restore {t : Session} (date : String)
    (hfilled : (target {} f fromFirst).reseed.Sound) (hconfig : t.config = s.config)
    (htext : t.description = if Text.isBlankText s.description then "" else s.description)
    (hname : t.projectName = (new s.config).nameAfter (s.toProject ""))
    (hlayout : t.layout = s.config.defaults.layout)
    (hgraph : t.graph = (target {} f fromFirst).reseed) :
    s.OpenedAs f (t.restore (s.toProject date).reread) := by
  have hlabel := label_restore t (s.toProject date).reread
  simp only [label, Prod.mk.injEq] at hlabel
  have hsound : t.graph.Sound := by
    rw [hgraph]
    exact hfilled
  constructor
  case config_eq => rw [hlabel.1, hconfig]
  case description => rw [description_restore, htext]
  case projectName => rw [hlabel.2, hname]
  case layout =>
    have hsaved : nonBlank? (s.toProject date).reread.layout =
        if Text.isBlankText s.layout then none else some s.layout := nonBlank?_some s.layout
    rw [layout_restore, hsaved, hlayout]
    split <;> rfl
  case arguments =>
    have harguments : t.graph.arguments = (target {} f fromFirst).arguments := by
      rw [hgraph]
      rfl
    rw [arguments_restore t _ hsound, harguments, arguments_target_empty, map_mapIdx]
    rfl
  case relations =>
    have hrelations : t.graph.relations = (target {} f fromFirst).relations := by
      rw [hgraph]
      rfl
    rw [relations_restore, hrelations, relations_target_empty]
  case sound => exact sound_restore t _ hsound

/-- The document of a session fills a new session with what its description says. -/
theorem exists_openedAs (s : Session)
    (hparse : Description.parse s.config.limits s.description = .ok f)
    (room : f.relations.length < Graph.lastNumber) (date : String) :
    ∃ t outcome, (new s.config).importProject (s.toProject date).reread = (t, .ok outcome) ∧
      s.OpenedAs f t := by
  have hfilled : (target {} f fromFirst).reseed.Sound :=
    (reconcile_empty (Description.parse_meets hparse) room fromFirst).2
  have hname : (new s.config).takeName (s.toProject date).reread =
      { new s.config with projectName := (new s.config).nameAfter (s.toProject "") } :=
    takeName_eq _ _
  have hdescription : nonBlank? (s.toProject date).reread.description =
      if Text.isBlankText s.description then none else some s.description :=
    nonBlank?_some s.description
  unfold importProject takeDescription
  rw [hname, hdescription]
  cases hblank : Text.isBlankText s.description with
  | true =>
    -- A blank description is not applied, and it says what the new session says.
    rw [parse_of_blank hblank] at hparse
    cases hparse
    exact ⟨_, _, rfl, openedAs_restore date hfilled rfl (by rw [hblank]; rfl) rfl rfl rfl⟩
  | false =>
    obtain ⟨listener, outcome, happly⟩ := applyDescription_of_new
      (s := { new s.config with projectName := (new s.config).nameAfter (s.toProject "") })
      rfl rfl hparse room
    simp only [Bool.false_eq_true, if_false, happly]
    exact ⟨_, _, rfl, openedAs_restore date hfilled rfl (by rw [hblank]; rfl) rfl rfl rfl⟩

end Session

end Argumentation
