import Argumentation.Proofs.Session.Agreement

/-!
# The data of sessions

In every session that is reached, whatever was done and whatever failed on the way, the
identifiers are canonical and valid, the weights lie in their ranges, the relations join
arguments and say different things, the counter is beyond their numbers, and nothing is under
way (`Valid`).

Most of this is what `Agrees` says: the graph is sound, and it says what an accepted description
says.  What is left is the text that was applied last.  A session that has none has the empty
description (`BlankUntilApplied`), since whatever changes the description of a session says also
what was applied last.

Main statement: `run_valid`.
-/

namespace Argumentation.Session

variable {config : Config} {n : Nat} {s s' : Session}

/-! ## What was applied last -/

/-- The description of a session, and the text that was applied last. -/
def texts (s : Session) : String × Option String := (s.description, s.lastApplied)

/-- Whether a session to which nothing was applied has the empty description. -/
def BlankUntilApplied (s : Session) : Prop := s.lastApplied = none → s.description = ""

theorem texts_of_core (h : s'.core = s.core) : s'.texts = s.texts := by
  have hcore : s'.core.texts = s.core.texts := by rw [h]
  exact hcore

theorem texts_restore (s : Session) (p : Project) : (s.restore p).texts = s.texts :=
  texts_of_core (s := { s with graph := s.graph.reseed }) (core_restore s p)

namespace BlankUntilApplied

theorem of_texts (blank : s.BlankUntilApplied) (h : s'.texts = s.texts) :
    s'.BlankUntilApplied := by
  simp only [texts, Prod.mk.injEq] at h
  rw [BlankUntilApplied, h.1, h.2]
  exact blank

theorem of_core (blank : s.BlankUntilApplied) (h : s'.core = s.core) : s'.BlankUntilApplied :=
  blank.of_texts (texts_of_core h)

theorem of_some {text : String} (h : s.lastApplied = some text) : s.BlankUntilApplied := by
  intro hnone
  rw [h] at hnone
  cases hnone

theorem new (config : Config) : (new config).BlankUntilApplied := fun _ => rfl

theorem reset (s : Session) : s.reset.BlankUntilApplied := fun _ => rfl

theorem dispatch (blank : s.BlankUntilApplied) (es : List Event) :
    (s.dispatch es).BlankUntilApplied := by
  unfold Session.dispatch
  split
  · exact blank
  · cases s.mode with
    | idle => exact of_some rfl
    | applyingText => exact blank
    | applyingGraph => exact blank

theorem edit (blank : s.BlankUntilApplied) (e : Edit) : (s.edit e).1.BlankUntilApplied := by
  unfold Session.edit
  split
  · exact blank
  · have hgraph : ∀ g, BlankUntilApplied { s with graph := g } := fun _ => blank
    exact (hgraph _).dispatch _

theorem applyDescriptionWith (blank : s.BlankUntilApplied) (sound : s.graph.Sound) (text : String)
    (place : Reconcile.Placement) : (s.applyDescriptionWith text place).1.BlankUntilApplied := by
  cases hparse : Description.parse s.config.limits text with
  | error ds =>
    rw [applyDescriptionWith_of_error hparse]
    exact blank
  | ok f =>
    cases decEq s.lastApplied (some (Text.trim text)) with
    | isTrue happlied =>
      rw [applyDescriptionWith_of_applied hparse happlied]
      exact of_some happlied
    | isFalse happlied =>
      have hsound : (Overlay.clearResults s.graph).Sound :=
        sound.of_content (Overlay.content_clearResults s.graph)
      obtain ⟨es, hes, -⟩ :=
        Reconcile.reconcile_ok hsound (Description.parse_meets hparse).toProper place
      obtain ⟨listener, features, hresult⟩ :=
        applyDescriptionWith_of_reconciled hparse happlied hes
      rw [hresult]
      exact of_some rfl

theorem applyDescription (blank : s.BlankUntilApplied) (sound : s.graph.Sound) (text : String) :
    (s.applyDescription text).1.BlankUntilApplied := by
  rw [Session.applyDescription]
  exact blank.applyDescriptionWith sound text _

theorem setProjectName (blank : s.BlankUntilApplied) (name : String) :
    (s.setProjectName name).BlankUntilApplied := blank.of_core (core_setProjectName s name)

theorem importProject (blank : s.BlankUntilApplied) (sound : s.graph.Sound) (p : Project) :
    (s.importProject p).1.BlankUntilApplied := by
  have hcore := core_takeName s p
  have hblank := blank.of_core hcore
  have hsound : (s.takeName p).graph.Sound := sound.of_content (congrArg Session.graph hcore)
  have htaken : ((s.takeName p).takeDescription p).1.BlankUntilApplied := by
    unfold takeDescription
    split
    · exact hblank.applyDescription hsound _
    · exact hblank
  unfold Session.importProject
  generalize (s.takeName p).takeDescription p = r at htaken ⊢
  obtain ⟨t, e | outcome⟩ := r
  · exact htaken
  · exact htaken.of_texts (texts_restore t p)

theorem importText (blank : s.BlankUntilApplied) (sound : s.graph.Sound) (content : String)
    (format : FileFormat) : (s.importText content format).1.BlankUntilApplied := by
  cases format with
  | description =>
    rw [Session.importText]
    exact blank.applyDescription sound content
  | project =>
    rw [Session.importText]
    cases Project.ofText content with
    | error e => exact blank
    | ok p => exact blank.importProject sound p

theorem importFrom (blank : s.BlankUntilApplied) (path : String) (read : Except Error String) :
    (s.importFrom path read).1.BlankUntilApplied := by
  unfold Session.importFrom
  split
  · cases read with
    | error e => exact blank
    | ok content =>
      simp only [importRead, importContent]
      cases Path.stem? path with
      | none => exact (reset s).importText Graph.sound_empty content _
      | some stem =>
        have hcore := core_setProjectName s.reset stem
        have hsound : (s.reset.setProjectName stem).graph.Sound :=
          Graph.sound_empty.of_content (congrArg Session.graph hcore)
        exact ((reset s).setProjectName stem).importText hsound content _
  · exact blank

/-- Each operation that changes the description says what was applied. -/
theorem perform (blank : s.BlankUntilApplied) (agrees : Agrees config n s) (op : Operation) :
    (s.perform op).1.BlankUntilApplied := by
  have sound := agrees.sound
  cases haside : op.isAside with
  | true => exact blank.of_core (core_perform s haside)
  | false =>
    cases op with
    | applyDescription text =>
      simp only [Session.perform, telling]
      exact blank.applyDescription sound text
    | applyDescriptionWith text place =>
      simp only [Session.perform, telling]
      exact blank.applyDescriptionWith sound text place
    | applyReading reading =>
      cases reading with
      | settled text =>
        rw [perform_settled, Session.perform, telling]
        exact blank.applyDescription sound text
      | finished => exact blank
    | edit e => exact blank.edit e
    | syncText => exact of_some rfl
    | importText content format =>
      simp only [Session.perform, telling]
      exact blank.importText sound content format
    | importFile path read =>
      simp only [Session.perform, telling]
      exact blank.importFrom path read
    | reset => exact reset s
    | _ => cases haside

end BlankUntilApplied

/-! ## Weights in their ranges -/

/-- Whether a weight that is there lies in a range and is a number. -/
def InRange (range : WeightRange) (weight : Option Binary64) : Prop :=
  ∀ w, weight = some w → range.contains w = true ∧ w.isNan = false

theorem inRange_of_checkWeight {limits : Limits} {kind : WeightKind} {weight : Option Binary64}
    (h : checkWeight limits kind weight = .ok ()) : InRange (limits.rangeOf kind) weight := by
  intro w hw
  have hnan : w.isNan = false := isNumber_of_checkWeight h w hw
  refine ⟨?_, hnan⟩
  rw [hw, checkWeight] at h
  cases hcontains : (limits.rangeOf kind).contains w with
  | true => rfl
  | false => simp [hnan, hcontains] at h

/-! ## Every session that is reached -/

/-- A session whose data are as they should be. -/
structure Valid (config : Config) (s : Session) : Prop where
  /-- Identifiers are canonical. -/
  canonical : ∀ a ∈ s.graph.arguments, IsCanonical a.id
  /-- Identifiers are valid. -/
  identifiers : ∀ a ∈ s.graph.arguments, validateIdentifier config.limits a.id = .ok ()
  /-- The weights of arguments lie in their range. -/
  nodeWeights : ∀ a ∈ s.graph.arguments, InRange config.limits.nodeWeight a.weight
  /-- The weights of relations lie in their range. -/
  edgeWeights : ∀ r ∈ s.graph.relations, InRange config.limits.edgeWeight r.weight
  /-- A relation joins two arguments. -/
  joined : ∀ r ∈ s.graph.relations,
    (∃ a ∈ s.graph.arguments, a.id = r.source) ∧ ∃ a ∈ s.graph.arguments, a.id = r.target
  /-- No two relations say the same. -/
  distinct : (s.graph.relations.map (·.key)).Nodup
  /-- The counter is beyond every number. -/
  below : ∀ r ∈ s.graph.relations, r.id.number < s.graph.counter.next
  /-- Nothing is under way. -/
  idle : s.mode = .idle
  /-- The description is empty while nothing was applied. -/
  unapplied : s.lastApplied = none → s.description = ""
  /-- What was applied last is the description without surrounding blanks. -/
  applied : ∀ text, s.lastApplied = some text → text = Text.trim s.description

theorem Agrees.valid (agrees : Agrees config n s) (blank : s.BlankUntilApplied) :
    Valid config s := by
  have sound := agrees.sound
  have within := agrees.within
  have hstored {a : Argument} (ha : a ∈ s.graph.arguments) :
      s.graph.store.arguments a.id = some a.weight := by
    obtain ⟨m, hm, rfl⟩ := List.mem_map.1 ha
    rw [sound.keyed m hm]
    exact sound.store_arguments_of_mem hm
  have hnamed {id : String} (hid : id ∈ s.graph.keys) : ∃ a ∈ s.graph.arguments, a.id = id := by
    rw [← sound.map_id_arguments] at hid
    exact List.mem_map.1 hid
  exact {
    canonical := fun a ha => sound.canonicalId_argument ha
    identifiers := fun a ha => (within.arguments _ _ (hstored ha)).1
    nodeWeights := fun a ha => inRange_of_checkWeight (within.arguments _ _ (hstored ha)).2
    edgeWeights := fun r hr =>
      inRange_of_checkWeight (within.relations _ _ (sound.store_relations_of_mem hr))
    joined := fun r hr => (sound.joined r hr).imp hnamed hnamed
    distinct := sound.nodup_relationKeys
    below := sound.below
    idle := agrees.idle
    unapplied := blank
    applied := agrees.applied }

/-- The data of every session that is reached are as they should be. -/
theorem run_valid (config : Config) (ops : List Operation)
    (room : (new config).drawnBy ops < Graph.lastNumber) :
    Valid config ((new config).run ops) := by
  have blank : ((new config).run ops).BlankUntilApplied :=
    (agrees_new config).run_keeps (fun op agrees _ _ blank => blank.perform agrees op)
      (Nat.le_refl 1) (.new config) ops (by omega)
  exact (run_agrees config ops room).valid blank

/-- A description is typed, two edits are refused, and a document brings a weight that is written
with blanks. -/
theorem run_valid_imported :
    let ops : List Operation := [.applyDescription " arg(A,0.5).\natt(a,A).\n",
      .edit (.addArgument "b c" none none ⟨0, 0⟩), .edit (.addRelation ⟨.support, "a", "A"⟩ (some 2)),
      .importText "arg(b, 1 ).\nsupport(B,b,0)." .description]
    (new {}).drawnBy ops < Graph.lastNumber ∧ Valid {} ((new {}).run ops) ∧
      ((new {}).run ops).graph.arguments.map (·.id) = ["b"] ∧
      ((new {}).run ops).graph.relationKeys = [⟨.support, "b", "b"⟩] := by
  intro ops
  have room : (new {}).drawnBy ops < Graph.lastNumber := by decide +kernel
  have reached : ((new {}).run ops).graph.arguments.map (·.id) = ["b"] ∧
      ((new {}).run ops).graph.relationKeys = [⟨.support, "b", "b"⟩] := by decide +kernel
  exact ⟨room, run_valid {} ops room, reached⟩

end Argumentation.Session
