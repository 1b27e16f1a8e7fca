import Argumentation.Proofs.Classification
import Argumentation.Proofs.Session.Agreement
import Argumentation.Proofs.Session.Listening

/-!
# Sessions are classified by their descriptions

The features of a session are read off its graph, which has come about by descriptions, edits and
imports in some order.  But the graph says what the description says, so the features are those of
the description: how it came about makes no difference, and neither do the order of the arguments
and the numbers of the relations.

An outcome tells the features of the graph that its step leaves (`features_reply`), also where a
project document adds descriptions and places to the graph once the outcome is known.

Main statement: `run_classified`.
-/

namespace Argumentation.Session

variable {config : Config} {n : Nat} {s : Session}

/-! ## Outcomes -/

/-- Whether an outcome, if there is one, tells the features of the graph that is left. -/
def Tells (r : Session × Except Error Outcome) : Prop :=
  ∀ o, r.2 = .ok o → o.features = r.1.graph.features

theorem tells_error (s : Session) (e : Error) : Tells (s, .error e) := nofun

theorem tells_outcome (s : Session) (es : List Event) : Tells (s, .ok (s.outcome es)) := by
  intro o h
  cases h
  rfl

theorem tells_edit (s : Session) (e : Edit) : Tells (s.edit e) := by
  unfold edit
  split
  · exact tells_error s _
  · exact tells_outcome _ _

theorem tells_applyDescriptionWith (s : Session) (text : String) (place : Reconcile.Placement) :
    Tells (s.applyDescriptionWith text place) := by
  unfold applyDescriptionWith
  split
  · exact tells_error s _
  · next f _ =>
    dsimp only
    split
    · exact tells_outcome _ []
    · generalize applyFramework _ f place = r
      obtain ⟨t, applied⟩ := r
      cases applied with
      | error e => exact tells_error _ e
      | ok es => exact tells_outcome _ es

theorem tells_applyDescription (s : Session) (text : String) : Tells (s.applyDescription text) := by
  unfold applyDescription
  exact tells_applyDescriptionWith s text _

theorem tells_takeDescription (s : Session) (p : Project) : Tells (s.takeDescription p) := by
  unfold takeDescription
  split
  · exact tells_applyDescription s _
  · exact tells_outcome s []

/-- What a project document adds to the graph has no part in the features. -/
theorem features_restore (s : Session) (p : Project) :
    (s.restore p).graph.features = s.graph.features := by
  have hcontent : (s.restore p).graph.content = s.graph.reseed.content :=
    congrArg (·.graph) (core_restore s p)
  have hfeatures := Graph.features_of_content hcontent
  exact hfeatures

theorem tells_importProject (s : Session) (p : Project) : Tells (s.importProject p) := by
  have htells := tells_takeDescription (s.takeName p) p
  unfold importProject
  generalize (s.takeName p).takeDescription p = r at htells ⊢
  obtain ⟨t, applied⟩ := r
  cases applied with
  | error e => exact tells_error t e
  | ok outcome =>
    intro o h
    rw [htells o h]
    exact (features_restore t p).symm

theorem tells_importText (s : Session) (content : String) (format : FileFormat) :
    Tells (s.importText content format) := by
  cases format with
  | description => exact tells_applyDescription s content
  | project =>
    rw [importText]
    split
    · exact tells_error s _
    · exact tells_importProject s _

theorem tells_importFrom (s : Session) (path : String) (read : Except Error String) :
    Tells (s.importFrom path read) := by
  unfold importFrom
  split
  · cases read with
    | error e => exact tells_error s e
    | ok content => exact tells_importText _ content _
  · exact tells_error s _

theorem Tells.features_eq {r : Session × Except Error Outcome} (tells : Tells r) {o : Outcome}
    (h : Reply.outcome r.2 = .outcome (.ok o)) : o.features = (telling r).1.graph.features :=
  tells o (Reply.outcome.inj h)

/-- Every operation that has an outcome tells the features of the graph that it leaves. -/
theorem features_reply {op : Operation} {o : Outcome} (h : s.reply op = .outcome (.ok o)) :
    o.features = (s.perform op).1.graph.features := by
  cases op with
  | applyDescription text =>
    rw [reply] at h
    rw [perform]
    exact (tells_applyDescription s text).features_eq h
  | applyDescriptionWith text place =>
    rw [reply] at h
    rw [perform]
    exact (tells_applyDescriptionWith s text place).features_eq h
  | applyReading reading =>
    cases reading with
    | settled text =>
      rw [reply_settled, reply] at h
      rw [perform_settled, perform]
      exact (tells_applyDescription s text).features_eq h
    | finished => cases h
  | edit e =>
    rw [reply] at h
    rw [perform]
    exact (tells_edit s e).features_eq h
  | importText content format =>
    rw [reply] at h
    rw [perform]
    exact (tells_importText s content format).features_eq h
  | importFile path read =>
    rw [reply] at h
    rw [perform]
    exact (tells_importFrom s path read).features_eq h
  | _ => cases h

/-! ## Runs -/

theorem Agrees.exists_features (agrees : Agrees config n s) :
    ∃ f, Description.parse config.limits s.description = .ok f ∧ s.graph.features = f.features := by
  obtain ⟨f, hparse, hsame⟩ := agrees.said
  exact ⟨f, hparse,
    agrees.sound.features_eq_of_sameStructure (Description.parse_meets hparse).toDistinct hsame⟩

theorem Agrees.checkDescription_eq (agrees : Agrees config n s) {f : Framework}
    (h : Description.parse config.limits s.description = .ok f) :
    s.checkDescription s.description = .ok f := by
  rw [checkDescription, agrees.config_eq, h]
  rfl

/-- A session is classified by its description alone.  In every session that is reached, the
description is accepted and has the features of the graph, and these are also the features that a
successful operation tells.  Two sessions with the same limits and the same description have the
same features, in whatever way each of them was reached. -/
theorem run_classified (config : Config) (ops : List Operation)
    (room : (new config).drawnBy ops < Graph.lastNumber) :
    let s := (new config).run ops
    (∃ f, s.checkDescription s.description = .ok f ∧ s.graph.features = f.features) ∧
      (∀ op o, (new config).drawnBy (ops ++ [op]) < Graph.lastNumber →
        s.reply op = .outcome (.ok o) →
          let t := (s.perform op).1
          ∃ f, t.checkDescription t.description = .ok f ∧ o.features = f.features) ∧
      ∀ config' ops', (new config').drawnBy ops' < Graph.lastNumber →
        config'.limits = config.limits →
          let t := (new config').run ops'
          t.description = s.description → t.graph.features = s.graph.features := by
  intro s
  have agrees : Agrees config _ s := run_agrees config ops room
  obtain ⟨f, hparse, hfeatures⟩ := agrees.exists_features
  refine ⟨⟨f, agrees.checkDescription_eq hparse, hfeatures⟩, ?_, ?_⟩
  · intro op o room' hreply t
    have agrees' := run_agrees config (ops ++ [op]) room'
    rw [run_append] at agrees'
    change Agrees config _ t at agrees'
    obtain ⟨f', hparse', hfeatures'⟩ := agrees'.exists_features
    exact ⟨f', agrees'.checkDescription_eq hparse', (features_reply hreply).trans hfeatures'⟩
  · intro config' ops' room' hlimits t hdescription
    obtain ⟨f', hparse', hfeatures'⟩ := (run_agrees config' ops' room').exists_features
    rw [hlimits, hdescription, hparse] at hparse'
    cases hparse'
    exact hfeatures'.trans hfeatures.symm

/-- One description is applied to a new session and to one in which its arguments stand in another
order, one of them with a negative zero, and in which a relation has to go. -/
theorem run_classified_reordered :
    let text := "arg(a,0).\narg(b).\nsupport(a,b)."
    let ops : List Operation := [.edit (.addArgument "B" none none ⟨0, 0⟩),
      .edit (.addArgument "a" (some (-0)) none ⟨0, 0⟩),
      .edit (.addRelation ⟨.attack, "b", "a"⟩ none), .applyDescription text]
    let s := (new {}).run [.applyDescription text]
    let t := (new {}).run ops
    ((new {}).drawnBy [.applyDescription text] < Graph.lastNumber ∧
      (new {}).drawnBy ops < Graph.lastNumber ∧ t.description = s.description) ∧
    (s.graph.argumentEntries = [("a", some 0), ("b", none)] ∧ s.graph.relationIds = [⟨1⟩]) ∧
    (t.graph.argumentEntries = [("b", none), ("a", some (-0))] ∧ t.graph.relationIds = [⟨2⟩]) ∧
    t.graph.features = s.graph.features ∧ s.graph.features.toText = "QBAF (gradual)" := by
  intro text ops s t
  have room : (new {}).drawnBy [.applyDescription text] < Graph.lastNumber := by decide +kernel
  have room' : (new {}).drawnBy ops < Graph.lastNumber := by decide +kernel
  have hdescription : t.description = s.description := by decide +kernel
  have hs : s.graph.argumentEntries = [("a", some 0), ("b", none)] ∧
      s.graph.relationIds = [⟨1⟩] := by decide +kernel
  have ht : t.graph.argumentEntries = [("b", none), ("a", some (-0))] ∧
      t.graph.relationIds = [⟨2⟩] := by decide +kernel
  obtain ⟨-, -, hclassified⟩ := run_classified {} [.applyDescription text] room
  exact ⟨⟨room, room', hdescription⟩, hs, ht, hclassified {} ops room' rfl hdescription,
    by decide +kernel⟩

end Argumentation.Session
