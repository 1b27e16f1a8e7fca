import Argumentation.Proofs.Session.Agreement

/-!
# Sessions refine stores

Seen from outside, the graph of a session is a store: which arguments and which relations there
are and with which weights.  In every session that is reached, an edit is refused exactly in the
cases of `Edit.Refused`, and then nothing changes.  Otherwise the store changes by `Edit.effect`,
whatever becomes of the description, of results and of listeners.

Main statement: `edit_refines_store`.
-/

namespace Argumentation.Session

variable {s : Session} {e : Edit}

theorem content_resetResults (s : Session) : s.resetResults.graph.content = s.graph.content :=
  Overlay.content_clearResults s.graph

theorem content_syncText (s : Session) : s.syncText.graph.content = s.graph.content :=
  content_resetResults { s with mode := .applyingGraph }

/-- To tell events leaves the store alone. -/
theorem store_dispatch (s : Session) (es : List Event) :
    (s.dispatch es).graph.store = s.graph.store := by
  unfold dispatch
  split
  · rfl
  · cases s.mode with
    | idle => exact Graph.store_of_content (content_syncText { s with listener := _ })
    | applyingText => rfl
    | applyingGraph => rfl

theorem edit_refused (sound : s.graph.Sound) (h : e.Refused s.config.limits s.graph) :
    ∃ err, s.edit e = (s, .error err) := by
  obtain ⟨err, herr⟩ := Edit.apply_refused sound h
  exact ⟨err, edit_of_error herr⟩

theorem edit_accepted (sound : s.graph.Sound) (h : ¬ e.Refused s.config.limits s.graph) :
    ∃ outcome, (s.edit e).2 = .ok outcome ∧ (s.edit e).1.graph.store = e.effect s.graph := by
  obtain ⟨g, es, hok, hstore⟩ := Edit.apply_accepted sound h
  rw [edit_of_ok hok]
  refine ⟨_, rfl, ?_⟩
  rw [store_dispatch, ← hstore]

/-- In every session that is reached, an edit fails exactly in the stated cases, and otherwise
changes the store of the graph in the stated way. -/
theorem edit_refines_store (config : Config) (ops : List Operation)
    (room : (new config).drawnBy ops < Graph.lastNumber) (e : Edit) :
    let s := (new config).run ops
    (e.Refused config.limits s.graph → ∃ err, s.edit e = (s, .error err)) ∧
    (¬ e.Refused config.limits s.graph →
      ∃ outcome, (s.edit e).2 = .ok outcome ∧
        (s.edit e).1.graph.store = e.effect s.graph) := by
  intro s
  have agrees : Agrees config _ s := run_agrees config ops room
  rw [← agrees.config_eq]
  exact ⟨edit_refused agrees.sound, edit_accepted agrees.sound⟩

/-- An argument comes, then an attack on itself and a support of itself. -/
def selfRelating : List Operation :=
  [.edit (.addArgument "A" none none ⟨0, 0⟩), .edit (.addRelation ⟨.attack, "a", "a"⟩ none),
    .edit (.addRelation ⟨.support, "a", "a"⟩ (some 1))]

/-- Of an argument that attacks and supports itself, neither relation can be switched to the
other kind, but the argument can be renamed. -/
theorem edit_refines_store_selfRelating :
    (new {}).drawnBy selfRelating < Graph.lastNumber ∧
    (Edit.switchRelation ⟨1⟩).Refused {} ((new {}).run selfRelating).graph ∧
    (∃ err, ((new {}).run selfRelating).edit (.switchRelation ⟨1⟩) =
      ((new {}).run selfRelating, .error err)) ∧
    ¬ (Edit.editArgument "a" "C" none none).Refused {} ((new {}).run selfRelating).graph ∧
    ∃ outcome,
      (((new {}).run selfRelating).edit (.editArgument "a" "C" none none)).2 = .ok outcome ∧
      (((new {}).run selfRelating).edit (.editArgument "a" "C" none none)).1.graph.store =
        (Edit.editArgument "a" "C" none none).effect ((new {}).run selfRelating).graph := by
  have room : (new {}).drawnBy selfRelating < Graph.lastNumber := by decide +kernel
  have hrefused : (Edit.switchRelation ⟨1⟩).Refused {} ((new {}).run selfRelating).graph :=
    Or.inr ⟨⟨⟨1⟩, "a", "a", .attack, none⟩, by decide +kernel, by decide +kernel⟩
  have hvalid : validateIdentifier {} "C" = .ok () := by decide +kernel
  have haccepted :
      ¬ (Edit.editArgument "a" "C" none none).Refused {} ((new {}).run selfRelating).graph := by
    rintro ((hid | hweight | ⟨text, htext, -⟩) | hmissing | ⟨-, htaken⟩)
    · exact hid hvalid
    · exact hweight rfl
    · cases htext
    · revert hmissing
      decide +kernel
    · revert htaken
      decide +kernel
  obtain ⟨hrefuse, -⟩ := edit_refines_store {} selfRelating room (.switchRelation ⟨1⟩)
  obtain ⟨-, haccept⟩ := edit_refines_store {} selfRelating room (.editArgument "a" "C" none none)
  exact ⟨room, hrefused, hrefuse hrefused, haccepted, haccept haccepted⟩

end Argumentation.Session
