import Argumentation.Proofs.Description.Accepted
import Argumentation.Proofs.Session.Steps
import Argumentation.Proofs.Session.Unshown

/-!
# Descriptions of arguments

A description that an edit gives to an argument is checked and trimmed, so it is free text: not
blank, without blanks around it, and within the limits.  A project document gives descriptions as
they stand in it, without any check.  Nothing else gives descriptions, so every description that is
stored is free text or stands in a document that was imported (`Admissible`).

Identifiers and weights are checked everywhere.  So an argument that is submitted again as it is
stored is refused if and only if its description is not free text once it is trimmed, and nothing
changes if it is free text (`edit_resubmitted`).

Main statements: `run_described`, `described_unchecked`.
-/

namespace Argumentation

/-! ## Free texts -/

/-- A description of an argument that can be entered as it is. -/
structure IsFreeText (limits : Limits) (text : String) : Prop where
  /-- It is not blank. -/
  nonblank : Text.trim text ≠ ""
  /-- There are no blanks around it. -/
  trimmed : Text.trim text = text
  /-- It is neither too long nor does it have other characters. -/
  valid : validateText limits text = .ok ()

namespace Edit

variable {limits : Limits} {description : Option String}

theorem trimmed?_eq_some {text : String} (h : trimmed? description = some text) :
    Text.trim text = text ∧ text ≠ "" := by
  obtain ⟨hmap, hne⟩ := Option.filter_eq_some_iff.1 h
  obtain ⟨raw, -, rfl⟩ := Option.map_eq_some_iff.1 hmap
  exact ⟨Text.trim_trim raw, of_decide_eq_true hne⟩

/-- What the check of a description lets through is free text. -/
theorem isFreeText_of_checkDescription {d : Option String}
    (h : checkDescription limits description = .ok d) : ∀ text ∈ d, IsFreeText limits text := by
  intro text htext
  rw [checkDescription] at h
  cases ht : trimmed? description with
  | none =>
    rw [ht] at h
    cases h
    cases htext
  | some found =>
    simp only [ht] at h
    obtain ⟨htrim, hne⟩ := trimmed?_eq_some ht
    cases hvalid : validateText limits found with
    | error e =>
      rw [hvalid] at h
      cases h
    | ok u =>
      rw [hvalid] at h
      cases h
      cases htext
      exact ⟨htrim.symm ▸ hne, htrim, hvalid⟩

/-- Free texts are taken as they are. -/
theorem trimmed?_of_isFreeText (h : ∀ text ∈ description, IsFreeText limits text) :
    trimmed? description = description := by
  cases description with
  | none => rfl
  | some text =>
    have hfree := h text rfl
    rw [trimmed?, Option.map_some, hfree.trimmed, Option.filter_some,
      if_pos (decide_eq_true (hfree.trimmed ▸ hfree.nonblank))]

theorem of_checkArgument {id : String} {w : Option Binary64}
    (h : checkArgument limits id w = .ok ()) :
    validateIdentifier limits id = .ok () ∧ checkWeight limits .node w = .ok () := by
  rw [checkArgument] at h
  cases hid : validateIdentifier limits id with
  | error e =>
    rw [hid] at h
    cases h
  | ok u =>
    rw [hid] at h
    cases hw : checkWeight limits .node w with
    | error e =>
      simp only [hw, Except.mapError] at h
      cases h
    | ok u => exact ⟨rfl, rfl⟩

end Edit

/-! ## Admissible arguments -/

/-- An argument whose identifier and weight are valid, and whose description is free text or comes
from elsewhere. -/
structure Argument.Admissible (limits : Limits) (imported : String → Prop) (a : Argument) :
    Prop where
  /-- The identifier is valid. -/
  identifier : validateIdentifier limits a.id = .ok ()
  /-- The weight lies in its range. -/
  weight : checkWeight limits .node a.weight = .ok ()
  /-- The description is free text or comes from elsewhere. -/
  description : ∀ text ∈ a.description, IsFreeText limits text ∨ imported text

section Steps

variable {limits : Limits} {imported : String → Prop} {g g' : Graph}

/-- Whether all arguments of a graph are admissible. -/
def Graph.Admissible (limits : Limits) (imported : String → Prop) (g : Graph) : Prop :=
  ∀ a ∈ g.arguments, a.Admissible limits imported

namespace Graph.Admissible

variable (admissible : g.Admissible limits imported)
include admissible

theorem of_nodes (h : g'.nodes = g.nodes) : g'.Admissible limits imported := by
  rw [Graph.Admissible, arguments_of_nodes h]
  exact admissible

theorem setArgumentWeight (id : String) {w : Option Binary64}
    (hw : checkWeight limits .node w = .ok ()) :
    (g.setArgumentWeight id w).1.Admissible limits imported := by
  intro b hb
  obtain hold | ⟨a, ha, rfl⟩ := mem_of_setArgumentWeight hb
  · exact admissible b hold
  · exact ⟨(admissible a ha).identifier, hw, (admissible a ha).description⟩

theorem describe (id : String) {description : Option String}
    (hfree : ∀ text ∈ description, IsFreeText limits text) :
    (Edit.describe g id description).1.Admissible limits imported := by
  rcases Edit.describe_cases g id description with heq | ⟨a, -, heq⟩
  · rw [heq]
    exact admissible
  · rw [heq]
    intro b hb
    have hmem : b ∈ g.arguments ∨ ∃ a ∈ g.arguments, b = { a with description } :=
      mem_of_modifyArgument hb
    obtain hold | ⟨a, ha, rfl⟩ := hmem
    · exact admissible b hold
    · exact ⟨(admissible a ha).identifier, (admissible a ha).weight,
        fun text htext => .inl (hfree text htext)⟩

theorem renameArgument {id newId : String} {es : List Event}
    (hvalid : validateIdentifier limits newId = .ok ())
    (h : g.renameArgument id newId = .ok (g', es)) : g'.Admissible limits imported := by
  intro b hb
  obtain hold | ⟨a, ha, rfl⟩ := mem_of_renameArgument h hb
  · exact admissible b hold
  · exact ⟨validateIdentifier_canonicalId hvalid, (admissible a ha).weight,
      (admissible a ha).description⟩

theorem removeAll {ids : List RelationId} {es : List Event}
    (h : Edit.removeAll g ids = .ok (g', es)) : g'.Admissible limits imported := by
  induction ids generalizing g es with
  | nil =>
    cases h
    exact admissible
  | cons id ids ih =>
    obtain ⟨⟨k, e⟩, hk, hrest⟩ := Edit.exists_of_bind h
    obtain ⟨⟨m, ds⟩, hm, heq⟩ := Edit.exists_of_bind hrest
    cases heq
    exact ih (admissible.of_nodes (nodes_of_removeRelation hk)) hm

/-- Edits check what they are given. -/
theorem apply {e : Edit} {es : List Event} (h : e.apply limits g = .ok (g', es)) :
    g'.Admissible limits imported := by
  cases Edit.done_of_apply h with
  | addArgument hcheck htext hinsert =>
    obtain ⟨hid, hw⟩ := Edit.of_checkArgument hcheck
    intro b hb
    obtain hold | rfl := mem_of_insertArgument hinsert hb
    · exact admissible b hold
    · exact ⟨validateIdentifier_canonicalId hid, hw,
        fun text ht => .inl (Edit.isFreeText_of_checkDescription htext text ht)⟩
  | editArgument hcheck htext hrename =>
    obtain ⟨hid, hw⟩ := Edit.of_checkArgument hcheck
    have hrenamed := admissible.renameArgument hid hrename
    exact (hrenamed.setArgumentWeight _ hw).describe _ (Edit.isFreeText_of_checkDescription htext)
  | removeArgument hremove => exact fun b hb => admissible b (mem_of_removeArgument hremove hb)
  | clearRelations hremove => exact admissible.removeAll hremove
  | addRelation _ hinsert => exact admissible.of_nodes (nodes_of_insertRelation hinsert)
  | @editRelation id kind w k e _ hkind =>
    exact admissible.of_nodes
      ((nodes_setRelationWeight k id w).trans (nodes_of_setRelationKind hkind))
  | reverseRelation hreverse => exact admissible.of_nodes (nodes_of_reverseRelation hreverse)
  | switchRelation _ hkind => exact admissible.of_nodes (nodes_of_setRelationKind hkind)
  | removeRelation hremove => exact admissible.of_nodes (nodes_of_removeRelation hremove)

/-- A description gives weights that were checked, and new arguments without descriptions. -/
theorem reconcile {f : Framework} (meets : f.Meets limits) (place : Reconcile.Placement) :
    (g.reconcile f place).graph.Admissible limits imported := by
  refine Reconcile.forall_reconcile (fun e he => ⟨fun a ha => ?_, fun position => ?_⟩) admissible
  · exact ⟨ha.identifier, meets.nodeWeights e he, ha.description⟩
  · exact ⟨validateIdentifier_canonicalId (meets.valid e.1 (List.mem_map_of_mem he)),
      meets.nodeWeights e he, nofun⟩

end Graph.Admissible

end Steps

namespace Session

variable {config : Config} {imported : String → Prop} {s s' : Session}

/-! ## Described sessions -/

/-- A session whose arguments are admissible. -/
def Described (imported : String → Prop) (s : Session) : Prop :=
  s.graph.Admissible s.config.limits imported

/-- Results have nothing to do with it. -/
theorem Described.of_resetResults (h : s'.resetResults = s.resetResults)
    (described : s.Described imported) : s'.Described imported := by
  have hsame : s'.SameButResults s := sameButResults_of_resetResults h
  intro a ha
  obtain ⟨b, hb, heq⟩ : ∃ b ∈ s.graph.arguments, b.clearResults = a.clearResults :=
    List.mem_map.1 (hsame.arguments ▸ List.mem_map_of_mem ha)
  obtain ⟨hid, hw, hd, -⟩ := Argument.mk.inj heq
  rw [hsame.config]
  exact ⟨hid ▸ (described b hb).identifier, hw ▸ (described b hb).weight,
    hd ▸ (described b hb).description⟩

theorem Described.clearResults (described : s.Described imported) :
    (Overlay.clearResults s.graph).Admissible s.config.limits imported := by
  have hreset : s.resetResults.Described imported :=
    described.of_resetResults (resetResults_resetResults s)
  exact hreset

theorem Described.modifyArgument (described : s.Described imported) (id : String)
    {f : Argument → Argument}
    (hf : ∀ a, a.Admissible s.config.limits imported → (f a).Admissible s.config.limits imported) :
    Described imported { s with graph := s.graph.modifyArgument id f } := by
  intro b hb
  obtain hold | ⟨a, ha, rfl⟩ := Graph.mem_of_modifyArgument hb
  · exact described b hold
  · exact hf a (described a ha)

theorem Described.edit (described : s.Described imported) (idle : s.mode = .idle) (e : Edit) :
    (s.edit e).1.Described imported := by
  obtain heq | ⟨g, es, listener, happly, heq⟩ := edit_steps idle e
  · rwa [heq]
  · have hchanged : Described imported { s with graph := g, listener } := described.apply happly
    rw [heq]
    exact hchanged.clearResults

theorem Described.applyDescriptionWith (described : s.Described imported) (text : String)
    (place : Reconcile.Placement) : (s.applyDescriptionWith text place).1.Described imported := by
  obtain heq | heq | ⟨f, lastApplied, listener, hparse, heq⟩ :=
    applyDescriptionWith_steps s text place
  · rwa [heq]
  · rw [heq]
    exact described
  · rw [heq]
    exact described.clearResults.reconcile (Description.parse_meets hparse) place

/-- Every step checks descriptions, or takes them from a document. -/
theorem stable_described (config : Config) (imported : String → Prop) :
    Stable (fun n => ∀ text ∈ n.description, imported text)
      (fun s => Orderly config s ∧ s.Described imported) where
  reset h := ⟨(stable_orderly config).reset h.1, List.forall_mem_nil _⟩
  applied h text place :=
    ⟨h.1.applyDescriptionWith text place, h.2.applyDescriptionWith text place⟩
  edited h e := ⟨h.1.edit e, h.2.edit h.1.idle e⟩
  moved h id position := by
    refine ⟨(stable_orderly config).moved h.1 id position, ?_⟩
    unfold moveArgument
    split
    · exact h.2.modifyArgument id fun a ha => ⟨ha.identifier, ha.weight, ha.description⟩
    · exact h.2
  synced h := ⟨h.1.syncText, h.2.clearResults⟩
  heard h listener := ⟨(stable_orderly config).heard h.1 listener, h.2⟩
  named h name := by
    refine ⟨(stable_orderly config).named h.1 name, ?_⟩
    rw [setProjectName, Described]
    exact h.2
  laidOut h layout := ⟨(stable_orderly config).laidOut h.1 layout, h.2⟩
  restored h n hn := by
    refine ⟨(stable_orderly config).restored h.1 n trivial, ?_⟩
    refine h.2.modifyArgument n.id fun a ha => ⟨ha.identifier, ha.weight, fun text htext => ?_⟩
    obtain hnew | ⟨-, hold⟩ := Option.or_eq_some_iff.1 htext
    · exact .inr (hn text hnew)
    · exact ha.description text hold
  reseeded h := ⟨(stable_orderly config).reseeded h.1, h.2⟩

/-! ## Arguments that are submitted again -/

section Resubmitted

variable {a : Argument}

theorem wrongArgument_iff (h : a.Admissible s.config.limits imported) :
    Edit.WrongArgument s.config.limits a.id a.weight a.description ↔
      ∃ text, Edit.trimmed? a.description = some text ∧
        validateText s.config.limits text ≠ .ok () := by
  simp only [Edit.WrongArgument, h.identifier, h.weight, ne_eq, not_true_eq_false, false_or]

variable (orderly : Orderly config s) (ha : a ∈ s.graph.arguments)
include orderly ha

/-- An argument that is there under its own identifier is only weighed and described. -/
theorem apply_resubmitted
    (h : ¬ Edit.WrongArgument s.config.limits a.id a.weight a.description) :
    (Edit.editArgument a.id a.id a.weight a.description).apply s.config.limits s.graph =
      .ok (Edit.redescribe (canonicalId a.id) a.weight (Edit.trimmed? a.description)
        (s.graph, [])) := by
  have hcontains : s.graph.contains a.id = true := by
    rw [Graph.contains_iff, orderly.keyed.canonicalId_argument ha, ← orderly.keyed.map_id_arguments]
    exact List.mem_map_of_mem ha
  rw [Edit.apply, Edit.update_of_not_wrong h, hcontains, if_pos rfl, Graph.renameArgument_of_eq rfl]
  rfl

/-- To weigh and describe an argument as it is changes nothing. -/
theorem redescribe_self (hw : Binary64.IsNumber a.weight) :
    Edit.redescribe (canonicalId a.id) a.weight a.description (s.graph, []) = (s.graph, []) := by
  have hfind : s.graph.argument? (canonicalId a.id) = some a := by
    rw [Graph.argument?, orderly.keyed.canonicalId_argument ha, orderly.keyed.find?_of_mem ha]
    rfl
  have hweigh : s.graph.setArgumentWeight (canonicalId a.id) a.weight = (s.graph, none) := by
    simp only [Graph.setArgumentWeight, hfind, Binary64.optionEq_self hw, if_true]
  have hdescribe : Edit.describe s.graph (canonicalId a.id) a.description = (s.graph, none) := by
    simp only [Edit.describe, hfind, if_true]
  simp only [Edit.redescribe, hweigh, hdescribe]
  rfl

/-- An argument that is submitted again is refused if and only if its description is. -/
theorem isOk_edit_resubmitted (h : a.Admissible s.config.limits imported) :
    (s.edit (.editArgument a.id a.id a.weight a.description)).2.isOk = true ↔
      ∀ text, Edit.trimmed? a.description = some text →
        validateText s.config.limits text = .ok () := by
  by_cases hwrong : Edit.WrongArgument s.config.limits a.id a.weight a.description
  · obtain ⟨e, he⟩ : ∃ e, (Edit.editArgument a.id a.id a.weight a.description).apply
        s.config.limits s.graph = .error e := Edit.update_of_wrong hwrong
    obtain ⟨text, htext, hinvalid⟩ := (wrongArgument_iff h).1 hwrong
    rw [edit_of_error he]
    exact ⟨nofun, fun hvalid => absurd (hvalid text htext) hinvalid⟩
  · have happly := apply_resubmitted orderly ha hwrong
    rw [wrongArgument_iff h] at hwrong
    rw [edit_of_ok happly]
    refine ⟨fun _ text htext => ?_, fun _ => rfl⟩
    by_contra hinvalid
    exact hwrong ⟨text, htext, hinvalid⟩

/-- An argument that is submitted again and has no description, or free text, stays as it is, and
so does the session. -/
theorem edit_resubmitted (h : a.Admissible s.config.limits imported)
    (hfree : ∀ text ∈ a.description, IsFreeText s.config.limits text) :
    s.edit (.editArgument a.id a.id a.weight a.description) = (s, .ok (s.outcome [])) := by
  have hright : ¬ Edit.WrongArgument s.config.limits a.id a.weight a.description := by
    rw [wrongArgument_iff h, Edit.trimmed?_of_isFreeText hfree]
    rintro ⟨text, htext, hinvalid⟩
    exact hinvalid (hfree text htext).valid
  have happly := apply_resubmitted orderly ha hright
  rw [Edit.trimmed?_of_isFreeText hfree,
    redescribe_self orderly ha (isNumber_of_checkWeight h.weight)] at happly
  rw [edit_of_ok happly]
  rfl

end Resubmitted

/-! ## Every session that is reached -/

/-- The descriptions of arguments in the documents that some operations read. -/
def importedTexts (ops : List Operation) : List String :=
  ops.flatMap fun op => op.nodes.filterMap (·.description)

theorem mem_importedTexts {ops : List Operation} {op : Operation} (hop : op ∈ ops)
    {n : Project.Node} (hn : n ∈ op.nodes) {text : String} (htext : text ∈ n.description) :
    text ∈ importedTexts ops :=
  List.mem_flatMap.2 ⟨op, hop, List.mem_filterMap.2 ⟨n, hn, htext⟩⟩

theorem run_orderly_described (config : Config) (ops : List Operation) :
    Orderly config ((new config).run ops) ∧
      ((new config).run ops).Described (· ∈ importedTexts ops) := by
  refine (stable_described config (· ∈ importedTexts ops)).run (fun h hs =>
    ⟨hs.1.of_resetResults h, hs.2.of_resetResults h⟩) (fun op hop n hn text htext => ?_)
    ⟨orderly_new config, List.forall_mem_nil _⟩
  exact mem_importedTexts hop hn htext

/-- Whatever is done, the description of every argument is free text, or it stands as it is in a
project document that was imported.  An argument that is submitted again with what it has is
refused if and only if its trimmed description is not valid, and otherwise nothing changes if there
is no description or it is free text. -/
theorem run_described (config : Config) (ops : List Operation) :
    let s := (new config).run ops
    ∀ a ∈ s.graph.arguments,
      (∀ text ∈ a.description, IsFreeText config.limits text ∨ text ∈ importedTexts ops) ∧
      ((s.edit (.editArgument a.id a.id a.weight a.description)).2.isOk = true ↔
        ∀ text, Edit.trimmed? a.description = some text →
          validateText config.limits text = .ok ()) ∧
      ((∀ text ∈ a.description, IsFreeText config.limits text) →
        s.edit (.editArgument a.id a.id a.weight a.description) = (s, .ok (s.outcome []))) := by
  intro s a ha
  obtain ⟨orderly, described⟩ : Orderly config s ∧ s.Described (· ∈ importedTexts ops) :=
    run_orderly_described config ops
  have admissible := described a ha
  rw [← orderly.config_eq]
  exact ⟨admissible.description, isOk_edit_resubmitted orderly ha admissible,
    edit_resubmitted orderly ha admissible⟩

/-- A description that was entered with blanks around it is stored without them, and can be
submitted again. -/
theorem run_described_entered :
    let s := (new {}).run [.edit (.addArgument "A" none (some " Who, me? ") {})]
    let a : Argument := { id := "a", description := some "Who, me?" }
    a ∈ s.graph.arguments ∧ IsFreeText {} "Who, me?" ∧
      s.edit (.editArgument "a" "a" none (some "Who, me?")) = (s, .ok (s.outcome [])) := by
  intro s a
  have ha : a ∈ s.graph.arguments := by decide +kernel
  have hnone : importedTexts [.edit (.addArgument "A" none (some " Who, me? ") {})] = [] := rfl
  obtain ⟨hdescription, -, hagain⟩ := run_described {} _ a ha
  have hfree : ∀ text ∈ a.description, IsFreeText {} text := fun text htext =>
    (hdescription text htext).resolve_right (hnone ▸ List.not_mem_nil)
  exact ⟨ha, hfree _ rfl, hagain hfree⟩

/-- A document that gives an argument a description with a character that is not allowed. -/
def hashed : String :=
  "\x7b\"description\": \"arg(a).\", \"graph\": " ++
    "\x7b\"nodes\": [\x7b\"id\": \"a\", \"description\": \"#\"\x7d], \"edges\": []\x7d\x7d"

theorem ofText_hashed : Project.ofText hashed =
    .ok { nodes := [{ id := "a", description := some "#" }], description := some "arg(a)." } := by
  decide +kernel

/-- The description is stored all the same, and the argument cannot be submitted again with it. -/
theorem described_unchecked :
    let s := (new {}).run [.importText hashed .project]
    s.graph.arguments.map (fun a => (a.id, a.weight, a.description)) = [("a", none, some "#")] ∧
      validateText {} "#" = .error .invalidTextChars ∧
      (s.edit (.editArgument "a" "a" none (some "#"))).2 =
        .error (.validation .invalidTextChars) := by
  rw [run, perform, importText, ofText_hashed]
  decide +kernel

end Session

end Argumentation
