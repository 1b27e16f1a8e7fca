import Argumentation.Proofs.Session.Opened

/-!
# Saved projects

A session is saved as a project document and opened again in a new session.  The description and
the graph of a session that is reached say the same, so the description brings back the arguments
and the relations with equal weights.  Names and layout come from the document, and so do the
descriptions and the places of the arguments, as `Restores` says field by field.

Coordinates are not checked when an argument is added or moved.  A document with an infinite one
is refused as a whole (`ofText_exportText`), so a session with such a place is saved but not
opened.

Main statements: `saved_restored`, `saved_opened`.
-/

namespace Argumentation

/-! ## Places -/

/-- Whether all arguments have finite places. -/
def Graph.isPlaced (g : Graph) : Bool := g.arguments.all (·.position.isFinite)

/-- Whether the arguments and the relations can be counted in 64 bits. -/
def Graph.Countable (g : Graph) : Prop :=
  g.nodes.length < Graph.lastNumber ∧ g.relations.length < Graph.lastNumber

instance (g : Graph) : Decidable g.Countable :=
  inferInstanceAs (Decidable (g.nodes.length < Graph.lastNumber ∧
    g.relations.length < Graph.lastNumber))

namespace Session

variable {config : Config} {n : Nat} {s t : Session} {f : Framework}

/-! ## Documents of sessions -/

theorem isFinite_toProject (s : Session) (date : String) :
    (s.toProject date).isFinite = s.graph.isPlaced := by
  rw [Project.isFinite, toProject, List.all_map]
  rfl

/-- The document of a session is read if all arguments have finite places, and not otherwise. -/
theorem ofText_exportText (countable : s.graph.Countable) (date : String) :
    Project.ofText (s.exportText date .project) =
      if s.graph.isPlaced then .ok (s.toProject date).reread else .error malformedJson := by
  have hlast : Graph.lastNumber < UInt64.size := by decide
  have hcounts : ∀ m ∈ (s.toProject date).metadata,
      m.nodeCount < UInt64.size ∧ m.edgeCount < UInt64.size := by
    intro m hm
    have hnodes : m.nodeCount = s.graph.nodes.length := by
      rw [← Option.some.inj hm]
    have hedges : m.edgeCount = s.graph.relations.length := by
      rw [← Option.some.inj hm]
    rw [hnodes, hedges]
    exact ⟨Nat.lt_trans countable.1 hlast, Nat.lt_trans countable.2 hlast⟩
  rw [exportText, Project.ofText_toText hcounts, isFinite_toProject]

/-! ## What is saved and what is restored -/

/-- An argument that is restored. -/
structure SavedAs (a b : Argument) : Prop where
  /-- The identifier. -/
  id : b.id = a.id
  /-- The weight, which is equal as a number. -/
  weight : Binary64.optionEq a.weight b.weight = true
  /-- The description. -/
  description : b.description = a.description
  /-- The place, if its coordinates are read back as they were, as short ones are
  (`Position.isExact_of_isShort`). -/
  position : a.position.IsExact → b.position = a.position

/-- A session that another one is restored in. -/
structure Restores (s t : Session) : Prop where
  /-- The description, unless it is blank. -/
  description : t.description = if Text.isBlankText s.description then "" else s.description
  /-- The name of the project. -/
  projectName : t.projectName = s.projectName
  /-- The layout, unless it is blank. -/
  layout : Text.isBlankText s.layout = false → t.layout = s.layout
  /-- Every argument is restored. -/
  argument : ∀ a ∈ s.graph.arguments, ∃ b ∈ t.graph.arguments, SavedAs a b
  /-- There are no other arguments. -/
  argument_only : ∀ b ∈ t.graph.arguments, ∃ a ∈ s.graph.arguments, SavedAs a b
  /-- Every relation is restored. -/
  relation : ∀ q ∈ s.graph.relations, ∃ r ∈ t.graph.relations,
    r.key = q.key ∧ Binary64.optionEq q.weight r.weight = true
  /-- There are no other relations. -/
  relation_only : ∀ r ∈ t.graph.relations, ∃ q ∈ s.graph.relations,
    r.key = q.key ∧ Binary64.optionEq q.weight r.weight = true

/-! ## What description and graph say alike -/

/-- Whether one list has an entry with an equal value for each entry of another. -/
def Matched {κ : Type} (l m : Assoc κ (Option Binary64)) : Prop :=
  ∀ k v, (k, v) ∈ l → ∃ w, (k, w) ∈ m ∧ Binary64.optionEq v w = true

section Matched

variable {κ : Type} {l m : Assoc κ (Option Binary64)}

theorem matched_of_rel [DecidableEq κ] (hl : l.keys.Nodup)
    (h : ∀ k, Option.Rel (fun v w => Binary64.optionEq v w = true) (l.get? k) (m.get? k)) :
    Matched l m := by
  intro k v hmem
  obtain ⟨w, hw, heq⟩ := Assoc.exists_of_rel_left hl hmem (h k)
  exact ⟨w, Assoc.mem_of_get? hw, heq⟩

theorem Matched.subset_keys (h : Matched l m) : l.keys ⊆ m.keys := by
  intro k hk
  obtain ⟨⟨k, v⟩, hmem, rfl⟩ := List.mem_map.1 hk
  obtain ⟨w, hw, -⟩ := h k v hmem
  exact Assoc.mem_keys_of_mem hw

end Matched

section Said

variable {g : Graph} (sound : g.Sound) (distinct : f.Distinct)
  (hsame : f.sameStructure g.framework = true)
include sound distinct hsame

/-- A framework that says what a graph says declares its arguments and relations with equal
weights. -/
theorem matched_of_said :
    (Matched g.argumentEntries f.arguments ∧ Matched f.arguments g.argumentEntries) ∧
      Matched g.relationEntries f.relations ∧ Matched f.relations g.relationEntries := by
  have hsaid := Framework.sameStructure_symm distinct sound.distinct_framework hsame
  rw [sound.sameStructure_framework_iff distinct] at hsaid
  obtain ⟨harguments, hrelations⟩ := hsaid
  exact ⟨⟨matched_of_rel sound.nodup_argumentEntries harguments,
      matched_of_rel distinct.arguments fun id => Framework.rel_optionEq_symm (harguments id)⟩,
    matched_of_rel sound.nodup_relationEntries hrelations,
    matched_of_rel distinct.relations fun key => Framework.rel_optionEq_symm (hrelations key)⟩

theorem length_relations_of_said : f.relations.length = g.relations.length := by
  obtain ⟨-, hto, hfrom⟩ := matched_of_said sound distinct hsame
  have hperm : f.relations.keys.Perm g.relationEntries.keys :=
    (List.perm_ext_iff_of_nodup distinct.relations sound.nodup_relationEntries).2 fun _ =>
      ⟨fun h => hfrom.subset_keys h, fun h => hto.subset_keys h⟩
  have hlength := hperm.length_eq
  rwa [Assoc.keys, Assoc.keys, Graph.relationEntries, List.length_map, List.length_map,
    List.length_map] at hlength

end Said

/-! ## What a document holds for an argument -/

section Restored

variable (sound : s.graph.Sound)
include sound

/-- A document that is read back has one entry for each argument. -/
theorem nodup_reread_nodes :
    ((s.toProject "").reread.nodes.map (canonicalId ·.id)).Nodup := by
  have hids : (s.toProject "").reread.nodes.map (canonicalId ·.id) = s.graph.keys := by
    rw [Project.reread, toProject, List.map_map, List.map_map, ← sound.map_id_arguments]
    exact List.map_congr_left fun a ha => sound.canonicalId_argument ha
  rw [hids]
  exact sound.nodup_keys

/-- An argument that is new is restored from the entry of the argument that was saved. -/
theorem restoredFrom_of_saved {a : Argument} (ha : a ∈ s.graph.arguments) (b : Argument) :
    restoredFrom (s.toProject "").reread.nodes a.id b =
      { b with
        description := a.description.or b.description
        position := a.position.reread?.getD b.position } := by
  have hmem : (Project.Node.ofArgument a).reread ∈ (s.toProject "").reread.nodes :=
    List.mem_map_of_mem (List.mem_map_of_mem ha)
  have hid : canonicalId (Project.Node.ofArgument a).reread.id = a.id :=
    sound.canonicalId_argument ha
  have hrestored := restoredFrom_of_mem hmem (nodup_reread_nodes sound) b
  rw [hid] at hrestored
  exact hrestored

/-- An argument with an equal weight is restored as it was saved. -/
theorem savedAs_restored {a : Argument} (ha : a ∈ s.graph.arguments) {w : Option Binary64}
    (hw : Binary64.optionEq a.weight w = true) (p : Position) :
    SavedAs a (restoredFrom (s.toProject "").reread.nodes a.id
      { id := a.id, weight := w, position := p }) := by
  rw [restoredFrom_of_saved sound ha]
  refine ⟨rfl, hw, Option.or_none, fun exact => ?_⟩
  have hread : a.position.reread? = some a.position := exact
  simp only [hread, Option.getD_some]

end Restored

/-- The name of a project is restored, because it has no blanks around it. -/
theorem Named.nameAfter_toProject (named : Named config s)
    (trimmed : Text.trim config.defaults.projectName = config.defaults.projectName) :
    (new s.config).nameAfter (s.toProject "") = s.projectName := by
  have htrimmed : Text.trim s.projectName = s.projectName := by
    cases named.name with
    | inl hdefault => rw [hdefault, trimmed]
    | inr hname => exact hname.1
  have hname : nonBlank? ((s.toProject "").metadata.map (·.projectName)) =
      if Text.isBlankText s.projectName then none else some s.projectName :=
    nonBlank?_some s.projectName
  unfold nameAfter
  rw [hname]
  cases hblank : Text.isBlankText s.projectName with
  | true =>
    -- Only the standard name can be blank, and a new project has it already.
    have hempty : s.projectName = "" := by rw [← htrimmed, Text.trim_eq_empty_iff.2 hblank]
    cases named.name with
    | inl hdefault =>
      rw [hdefault, ← named.config_eq]
      rfl
    | inr hname => exact absurd hempty hname.2
  | false => exact htrimmed

/-! ## Sessions that are reached -/

namespace Agrees

variable (agrees : Agrees config n s)
include agrees

/-- What a session that is reached is opened as. -/
theorem exists_openedAs (countable : s.graph.Countable) (date : String) :
    ∃ f, Description.parse config.limits s.description = .ok f ∧
      f.sameStructure s.graph.framework = true ∧
      f.relations.length < Graph.lastNumber ∧
      ∃ t outcome, (new config).importProject (s.toProject date).reread = (t, .ok outcome) ∧
        s.OpenedAs f t := by
  obtain ⟨f, hparse, hsame⟩ := agrees.said
  have room : f.relations.length < Graph.lastNumber := by
    rw [length_relations_of_said agrees.sound (Description.parse_meets hparse).toDistinct hsame]
    exact countable.2
  refine ⟨f, hparse, hsame, room, ?_⟩
  rw [← agrees.config_eq] at hparse ⊢
  exact Session.exists_openedAs s hparse room date

/-- A session that is opened again is restored. -/
theorem restores_of_openedAs (named : Named config s)
    (trimmed : Text.trim config.defaults.projectName = config.defaults.projectName)
    (distinct : f.Distinct) (hsame : f.sameStructure s.graph.framework = true)
    (opened : s.OpenedAs f t) : s.Restores t := by
  obtain ⟨⟨hargument, hargument_only⟩, hrelation, hrelation_only⟩ :=
    matched_of_said agrees.sound distinct hsame
  constructor
  case description => exact opened.description
  case projectName => rw [opened.projectName, named.nameAfter_toProject trimmed]
  case layout =>
    intro hlayout
    rw [opened.layout, if_neg (ne_true_of_eq_false hlayout)]
  case argument =>
    intro a ha
    obtain ⟨w, hmem, hw⟩ := hargument a.id a.weight (List.mem_map_of_mem ha)
    obtain ⟨i, hi, heq⟩ := List.getElem_of_mem hmem
    rw [opened.arguments]
    refine ⟨_, List.mem_mapIdx.2 ⟨i, hi, rfl⟩, ?_⟩
    rw [heq]
    exact savedAs_restored agrees.sound ha hw _
  case argument_only =>
    intro b hb
    rw [opened.arguments] at hb
    obtain ⟨i, hi, rfl⟩ := List.mem_mapIdx.1 hb
    obtain ⟨v, hmem, hv⟩ := hargument_only _ _ (List.getElem_mem hi)
    obtain ⟨a, ha, hid, rfl⟩ := Graph.mem_argumentEntries_iff.1 hmem
    have hid : f.arguments[i].1 = a.id := hid.symm
    refine ⟨a, ha, ?_⟩
    rw [Binary64.optionEq_comm] at hv
    rw [hid]
    exact savedAs_restored agrees.sound ha hv _
  case relation =>
    intro q hq
    obtain ⟨w, hmem, hw⟩ := hrelation q.key q.weight (List.mem_map_of_mem hq)
    obtain ⟨i, hi, heq⟩ := List.getElem_of_mem hmem
    rw [opened.relations]
    refine ⟨_, List.mem_mapIdx.2 ⟨i, hi, rfl⟩, ?_⟩
    rw [heq]
    exact ⟨rfl, hw⟩
  case relation_only =>
    intro r hr
    rw [opened.relations] at hr
    obtain ⟨i, hi, rfl⟩ := List.mem_mapIdx.1 hr
    obtain ⟨v, hmem, hv⟩ := hrelation_only _ _ (List.getElem_mem hi)
    obtain ⟨q, hq, hkey, rfl⟩ := Graph.mem_relationEntries_iff.1 hmem
    rw [Binary64.optionEq_comm] at hv
    exact ⟨q, hq, hkey.symm, hv⟩

end Agrees

/-! ## Saving and opening again -/

/-- A session that was saved is opened if all arguments have finite places, and not otherwise. -/
theorem importText_exportText (countable : s.graph.Countable) (date : String) :
    (new config).importText (s.exportText date .project) .project =
      if s.graph.isPlaced then (new config).importProject (s.toProject date).reread
      else (new config, .error malformedJson) := by
  rw [importText, ofText_exportText countable]
  cases s.graph.isPlaced <;> rfl

/-- Every session that is reached comes back when it is saved and opened again, as long as its
arguments have finite places. -/
theorem saved_restored (config : Config)
    (trimmed : Text.trim config.defaults.projectName = config.defaults.projectName)
    (ops : List Operation) (room : (new config).drawnBy ops < Graph.lastNumber) {s : Session}
    (hs : (new config).run ops = s) (countable : s.graph.Countable)
    (placed : s.graph.isPlaced = true) (date : String) :
    ∃ t outcome,
      (new config).importText (s.exportText date .project) .project = (t, .ok outcome) ∧
        s.Restores t := by
  have agrees : Agrees config _ s := hs ▸ run_agrees config ops room
  have named : Named config s := hs ▸ named_run config ops
  obtain ⟨f, hparse, hsame, -, t, outcome, himport, opened⟩ :=
    agrees.exists_openedAs countable date
  have distinct : f.Distinct := (Description.parse_meets hparse).toDistinct
  refine ⟨t, outcome, ?_, agrees.restores_of_openedAs named trimmed distinct hsame opened⟩
  rw [importText_exportText countable, placed, himport]
  rfl

/-- A project with a name, a layout and an argument that has been described and moved. -/
def described : List Operation :=
  [.setProjectName " bees ", .setLayout "tree", .applyDescription "arg(a,0.5).\narg(b).\natt(a,b).",
    .edit (.addArgument "C" (some 1) (some "third") ⟨300, 25 / 2⟩),
    .edit (.addRelation ⟨.support, "c", "A"⟩ (some (1 / 4))), .moveArgument "a" ⟨40, 1 / 10⟩]

/-- All of it comes back, and the places are read back as they were. -/
theorem saved_restored_described :
    let s := (new {}).run described
    (s.projectName = "bees" ∧ s.layout = "tree") ∧
      (∀ a ∈ s.graph.arguments, a.position.IsExact) ∧
      ∃ t outcome,
        (new {}).importText (s.exportText "" .project) .project = (t, .ok outcome) ∧
          s.Restores t := by
  intro s
  have countable : s.graph.Countable := by decide +kernel
  have hexact : ∀ a ∈ s.graph.arguments, a.position.IsExact := by decide +kernel
  exact ⟨by decide +kernel, hexact, saved_restored {} (by decide +kernel) described
    (by decide +kernel) (show _ = s from rfl) countable (by decide +kernel) ""⟩

/-- Every session that is reached can be opened again if its arguments have finite places.  If one
of them has not, what was saved is refused. -/
theorem saved_opened (config : Config) (ops : List Operation)
    (room : (new config).drawnBy ops < Graph.lastNumber) {s : Session}
    (hs : (new config).run ops = s) (countable : s.graph.Countable) (date : String) :
    (s.graph.isPlaced = true → ∃ t outcome,
      (new config).importText (s.exportText date .project) .project = (t, .ok outcome)) ∧
    (s.graph.isPlaced = false →
      (new config).importText (s.exportText date .project) .project =
        (new config, .error malformedJson)) := by
  have agrees : Agrees config _ s := hs ▸ run_agrees config ops room
  rw [importText_exportText countable]
  constructor
  · intro placed
    obtain ⟨-, -, -, -, t, outcome, himport, -⟩ := agrees.exists_openedAs countable date
    rw [placed, himport]
    exact ⟨t, outcome, rfl⟩
  · intro unplaced
    rw [unplaced]
    rfl

/-- An argument that is added far out can be opened again, but not if it is moved beyond all
bounds. -/
theorem saved_opened_moved :
    let far := (new {}).run [.edit (.addArgument "a" none none ⟨1000000000, 0⟩)]
    let beyond := (new {}).run [.edit (.addArgument "a" none none ⟨1000000000, 0⟩),
      .moveArgument "a" ⟨.infinite false, 0⟩]
    (∃ t outcome,
      (new {}).importText (far.exportText "" .project) .project = (t, .ok outcome)) ∧
    (new {}).importText (beyond.exportText "" .project) .project =
      (new {}, .error malformedJson) := by
  intro far beyond
  have hfar := saved_opened {} _ (by decide +kernel) (show _ = far from rfl)
    (by decide +kernel) ""
  have hbeyond := saved_opened {} _ (by decide +kernel) (show _ = beyond from rfl)
    (by decide +kernel) ""
  exact ⟨hfar.1 (by decide +kernel), hbeyond.2 (by decide +kernel)⟩

/-- What is saved with an argument at an infinite place is not opened again. -/
theorem saved_unopened :
    let s := (new {}).run [.edit (.addArgument "a" none none ⟨.infinite false, 0⟩)]
    (new {}).drawnBy [.edit (.addArgument "a" none none ⟨.infinite false, 0⟩)] <
        Graph.lastNumber ∧
      ((new {}).importText (s.exportText "" .project) .project).2.toBool = false := by
  intro s
  have countable : s.graph.Countable := by decide +kernel
  have hunplaced : s.graph.isPlaced = false := by decide +kernel
  refine ⟨by decide +kernel, ?_⟩
  rw [importText_exportText countable, hunplaced]
  rfl

end Session

end Argumentation
