import Argumentation.Proofs.Indexed.Edit
import Argumentation.Proofs.Indexed.Invariant
import Argumentation.Proofs.Session.Agreement

/-!
# What fails leaves no trace

A description is applied in several steps: the description is stored and the results are discarded
before the graph is reconciled, so a reconciliation that stopped half-way would leave all of that
done.  It never does in a session that is reached, since a description that is accepted is one
that every sound graph can be reconciled with.  An edit checks its fields before it changes
anything, and only its first change can be refused.

So an operation that asks for all or nothing (`Operation.IsWhole`) and fails leaves the session
exactly as it was, and so does an edit that tells no event.  Nor does it leave a trace if the edit
is carried out in place, in an indexed graph that represents the graph of the session.

Main statement: `failed_untouched`.
-/

namespace Argumentation.Session

/-- Whether an operation does all that it is asked for or nothing.  Imports do not: the name of
the project comes first, and a file starts a new project. -/
def Operation.IsWhole : Operation → Prop
  | .applyDescription _ | .applyDescriptionWith _ _ | .applyReading _ | .edit _
  | .moveArgument _ _ | .selectLabeling _ _ | .computeLabelings _ _ | .computeStrengths _ _
  | .filterLabelings _ _ => True
  | _ => False

variable {config : Config} {n : Nat} {s : Session} {err : Error}

/-! ## Failures -/

/-- A description fails only if it has faults. -/
theorem applyDescriptionWith_failed (sound : s.graph.Sound) {text : String}
    {place : Reconcile.Placement} (h : (s.applyDescriptionWith text place).2 = .error err) :
    (s.applyDescriptionWith text place).1 = s := by
  cases hparse : Description.parse s.config.limits text with
  | error ds => rw [applyDescriptionWith_of_error hparse]
  | ok f =>
    cases decEq s.lastApplied (some (Text.trim text)) with
    | isTrue happlied =>
      rw [applyDescriptionWith_of_applied hparse happlied] at h
      cases h
    | isFalse happlied =>
      have hsound : (Overlay.clearResults s.graph).Sound :=
        sound.of_content (Overlay.content_clearResults s.graph)
      have meets := Description.parse_meets hparse
      obtain ⟨es, hes, -⟩ := Reconcile.reconcile_ok hsound meets.toProper place
      obtain ⟨listener, features, hresult⟩ :=
        applyDescriptionWith_of_reconciled hparse happlied hes
      rw [hresult] at h
      cases h

theorem applyDescription_failed (sound : s.graph.Sound) {text : String}
    (h : (s.applyDescription text).2 = .error err) : (s.applyDescription text).1 = s :=
  applyDescriptionWith_failed sound h

theorem edit_failed {e : Edit} (h : (s.edit e).2 = .error err) :
    (s.edit e).1 = s ∧ e.apply s.config.limits s.graph = .error err := by
  cases happly : e.apply s.config.limits s.graph with
  | error err' =>
    rw [edit_of_error happly] at h ⊢
    cases h
    exact ⟨rfl, rfl⟩
  | ok r =>
    rw [edit_of_ok happly] at h
    cases h

theorem moveArgument_failed {id : String} {position : Position}
    (h : (s.moveArgument id position).2 = .error err) : (s.moveArgument id position).1 = s := by
  unfold moveArgument at h ⊢
  split at h
  · cases h
  · next hc => rw [if_neg hc]

theorem selectLabeling_failed {list : ResultList} {row : Nat}
    (h : (s.selectLabeling list row).2 = .error err) : (s.selectLabeling list row).1 = s := by
  unfold selectLabeling at h ⊢
  split at h
  · cases h
  · rfl

/-- What is asked of a service is asked before anything is changed. -/
theorem computeLabelings_failed {service : Service} {semantics : Option String}
    (h : (s.computeLabelings service semantics).2 = .error err) :
    (s.computeLabelings service semantics).1 = s := by
  simp only [computeLabelings] at h ⊢
  split at h
  · cases h
  · rfl

theorem computeStrengths_failed {service : Service} {params : Option GradualParams}
    (h : (s.computeStrengths service params).2 = .error err) :
    (s.computeStrengths service params).1 = s := by
  simp only [computeStrengths] at h ⊢
  split at h
  · cases h
  · rfl

theorem filterLabelings_failed {service : Service} {constraints : String}
    (h : (s.filterLabelings service constraints).2 = .error err) :
    (s.filterLabelings service constraints).1 = s := by
  simp only [filterLabelings] at h ⊢
  split at h
  · cases h
  · rfl

theorem telling_failed {r : Session × Except Error Outcome} (hr : ∀ err, r.2 = .error err → r.1 = s)
    (h : (telling r).2 = .error err) : (telling r).1 = s := by
  obtain ⟨t, e | outcome⟩ := r
  · exact hr e rfl
  · cases h

theorem silent_failed {α : Type} {r : Session × Except Error α}
    (hr : ∀ err, r.2 = .error err → r.1 = s) (h : (silent r).2 = .error err) :
    (silent r).1 = s := by
  obtain ⟨t, e | a⟩ := r
  · exact hr e rfl
  · cases h

/-- An operation that asks for all or nothing and fails has done nothing. -/
theorem perform_failed (sound : s.graph.Sound) {op : Operation} (whole : op.IsWhole)
    (h : (s.perform op).2 = .error err) : (s.perform op).1 = s := by
  cases op with
  | applyDescription text =>
    rw [perform] at h ⊢
    exact telling_failed (fun _ => applyDescription_failed sound) h
  | applyDescriptionWith text place =>
    rw [perform] at h ⊢
    exact telling_failed (fun _ => applyDescriptionWith_failed sound) h
  | applyReading reading =>
    cases reading with
    | settled text =>
      rw [perform_settled, perform] at h ⊢
      exact telling_failed (fun _ => applyDescription_failed sound) h
    | finished => rfl
  | edit e =>
    rw [perform] at h ⊢
    exact telling_failed (fun _ h => (edit_failed h).1) h
  | moveArgument id position => exact silent_failed (fun _ => moveArgument_failed) h
  | selectLabeling list row => exact silent_failed (fun _ => selectLabeling_failed) h
  | computeLabelings service semantics =>
    exact silent_failed (fun _ => computeLabelings_failed) h
  | computeStrengths service params => exact silent_failed (fun _ => computeStrengths_failed) h
  | filterLabelings service constraints =>
    exact silent_failed (fun _ => filterLabelings_failed) h
  | _ => exact whole.elim

/-! ## Edits without events -/

/-- An edit that tells no event has done nothing. -/
theorem edit_silent {e : Edit} {outcome : Outcome} (h : (s.edit e).2 = .ok outcome)
    (hnil : outcome.events = []) :
    (s.edit e).1 = s ∧ e.apply s.config.limits s.graph = .ok (s.graph, []) := by
  cases happly : e.apply s.config.limits s.graph with
  | error err =>
    rw [edit_of_error happly] at h
    cases h
  | ok r =>
    obtain ⟨g, es⟩ := r
    have hes : es = [] := by
      rw [edit_of_ok happly] at h
      cases h
      exact hnil
    subst hes
    cases Edit.apply_nil happly
    rw [edit_of_ok happly]
    exact ⟨rfl, rfl⟩

/-! ## Edits in place -/

section InPlace

variable {G : Type} [Arena Argument Relation G] [LawfulArena G] {x : IndexedGraph G}
  (rep : x.Represents s.graph) (sound : s.graph.Sound) {e : Edit}
include rep sound

theorem edit_failed_inPlace (h : (s.edit e).2 = .error err) :
    x.edit s.config.limits e = ⟨x, .error err⟩ := by
  have follows : (x.edit s.config.limits e).Follows x (e.apply s.config.limits s.graph) :=
    rep.follows_edit sound e
  rw [(edit_failed h).2] at follows
  cases follows with
  | refused h => exact h

theorem edit_silent_inPlace {outcome : Outcome} (h : (s.edit e).2 = .ok outcome)
    (hnil : outcome.events = []) : x.edit s.config.limits e = ⟨x, .ok []⟩ := by
  have follows : (x.edit s.config.limits e).Follows x (e.apply s.config.limits s.graph) :=
    rep.follows_edit sound e
  rw [(edit_silent h hnil).2] at follows
  cases follows with
  | made hedit _ =>
    rw [hedit]
    rw [IndexedGraph.edit_silent hedit]

end InPlace

/-! ## Every session that is reached -/

/-- In every session that is reached, an operation that asks for all or nothing and fails leaves
everything as it was, what the listener has received included, and so does an edit that tells no
event.  There are indexed graphs that represent the graph of the session, and an edit that is
carried out in place in any of them leaves it as it was in the same cases. -/
theorem failed_untouched (config : Config) (ops : List Operation)
    (room : (new config).drawnBy ops < Graph.lastNumber) {s : Session}
    (hs : (new config).run ops = s) :
    (∀ op err, op.IsWhole → (s.perform op).2 = .error err → (s.perform op).1 = s) ∧
    (∀ e outcome, (s.edit e).2 = .ok outcome → outcome.events = [] → (s.edit e).1 = s) ∧
    ∀ {G : Type} [Arena Argument Relation G] [LawfulArena G],
      (∃ x : IndexedGraph G, x.Represents s.graph) ∧
      ∀ (x : IndexedGraph G) (e : Edit), x.Represents s.graph →
        (∀ err, (s.edit e).2 = .error err → x.edit config.limits e = ⟨x, .error err⟩) ∧
        ∀ outcome, (s.edit e).2 = .ok outcome → outcome.events = [] →
          x.edit config.limits e = ⟨x, .ok []⟩ := by
  have agrees : Agrees config _ s := hs ▸ run_agrees config ops room
  have sound := agrees.sound
  refine ⟨fun op err whole h => perform_failed sound whole h,
    fun e outcome h hnil => (edit_silent h hnil).1, ?_⟩
  intro G _ _
  refine ⟨IndexedGraph.Represents.exists_represents sound, fun x e rep => ?_⟩
  rw [← agrees.config_eq]
  exact ⟨fun err h => edit_failed_inPlace rep sound h,
    fun outcome h hnil => edit_silent_inPlace rep sound h hnil⟩

/-- An argument cannot take the identifier of another one, and an argument that is given what it
has does not change. -/
theorem failed_untouched_taken :
    let s := (new {}).run [.edit (.addArgument "A" none (some " first ") ⟨0, 0⟩),
      .edit (.addArgument "b" none none ⟨0, 0⟩), .listen]
    (s.perform (.edit (.editArgument "a" " B " none none))).2 = .error (.duplicateArgument "b") ∧
      (s.perform (.edit (.editArgument "a" " B " none none))).1 = s ∧
      (s.edit (.editArgument "a" " A " none (some "first"))).1 = s := by
  intro s
  obtain ⟨hfailed, hsilent, -⟩ := failed_untouched {} _ (by decide +kernel) (show _ = s from rfl)
  have hrefused : (s.perform (.edit (.editArgument "a" " B " none none))).2 =
      .error (.duplicateArgument "b") := by decide +kernel
  have htold : ((s.edit (.editArgument "a" " A " none (some "first"))).2.map (·.events)) =
      .ok [] := by decide +kernel
  cases hedit : (s.edit (.editArgument "a" " A " none (some "first"))).2 with
  | error err =>
    rw [hedit] at htold
    cases htold
  | ok outcome =>
    rw [hedit] at htold
    exact ⟨hrefused, hfailed _ _ trivial hrefused,
      hsilent _ outcome hedit (Except.ok.inj htold)⟩

end Argumentation.Session
