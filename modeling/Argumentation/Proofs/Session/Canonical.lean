import Argumentation.Proofs.Session.Agreement

/-!
# Canonical texts are read back

The canonical text of what an accepted description says is read as exactly that: the same
arguments and relations in the same order with the same weights.  Both find the same at the same
places as well, however they are indexed (`Framework.Determined`).

Hence a canonical text is its own canonical text, and so is the text of every graph that a
session reaches as far as its framework goes.

Main statement: `toText_read_back`.
-/

namespace Argumentation

/-- The canonical text of a description. -/
def Description.canonicalize (limits : Limits) (text : String) :
    Except (List Diagnostic) String :=
  (parse limits text).map Framework.toText

/-! ## Canonical texts -/

namespace Description

variable {limits : Limits} {text : String} {f : Framework}

theorem parse_toText_of_parse (h : parse limits text = .ok f) :
    parse limits f.toText = .ok f ∧ f.Determined :=
  ⟨parse_toText (parse_meets h), (parse_meets h).determined⟩

/-- A canonical text is its own canonical text. -/
theorem canonicalize_bind (limits : Limits) (text : String) :
    (canonicalize limits text >>= canonicalize limits) = canonicalize limits text := by
  cases hparse : parse limits text with
  | error ds =>
    rw [canonicalize, hparse]
    rfl
  | ok f =>
    have honce : canonicalize limits text = .ok f.toText := by
      rw [canonicalize, hparse]
      rfl
    have htwice : canonicalize limits f.toText = .ok f.toText := by
      rw [canonicalize, (parse_toText_of_parse hparse).1]
      rfl
    simp only [honce, bind, Except.bind, htwice]

end Description

namespace Session

theorem Agrees.parse_toText {config : Config} {n : Nat} {s : Session}
    (agrees : Agrees config n s) :
    Description.parse config.limits s.graph.toText = .ok s.graph.framework ∧
      s.graph.framework.Determined := by
  have hparse := agrees.sound.parse_toText agrees.within
  exact ⟨hparse, (Description.parse_meets hparse).determined⟩

/-- The canonical text of an accepted description is read as what the description says, so that
it is canonical once and for all.  The canonical text of a graph that a session reaches is read
as what the graph says. -/
theorem toText_read_back (config : Config) :
    (∀ text f, Description.parse config.limits text = .ok f →
      Description.parse config.limits f.toText = .ok f ∧ f.Determined) ∧
    (∀ text, (Description.canonicalize config.limits text >>=
        Description.canonicalize config.limits) =
      Description.canonicalize config.limits text) ∧
    ∀ ops, (new config).drawnBy ops < Graph.lastNumber →
      let s := (new config).run ops
      Description.parse config.limits s.graph.toText = .ok s.graph.framework ∧
        s.graph.framework.Determined :=
  ⟨fun _ _ => Description.parse_toText_of_parse, Description.canonicalize_bind config.limits,
    fun ops room => (run_agrees config ops room).parse_toText⟩

/-- Infinite weights are allowed.  A support that comes first stands behind the attack in the
canonical text, and in the session a relation changes its kind. -/
theorem toText_read_back_infinite :
    let config : Config :=
      { limits := { edgeWeight := ⟨.infinite true, .infinite false⟩ } }
    let f : Framework :=
      { arguments := [("b", some 1), ("a", none)]
        attacks := [(("b", "b"), some (.infinite true))]
        supports := [(("a", "b"), some (.infinite false))] }
    let ops : List Operation :=
      [.applyDescription "support(A, b, inf).\natt(b, b, -inf).\narg(B, 1).\narg(a).",
        .edit (.switchRelation ⟨2⟩)]
    (Description.parse config.limits f.toText = .ok f ∧ f.Determined) ∧
      (Description.canonicalize config.limits f.toText >>=
          Description.canonicalize config.limits) =
        Description.canonicalize config.limits f.toText ∧
      Description.parse config.limits ((new config).run ops).graph.toText =
        .ok ((new config).run ops).graph.framework := by
  intro config f ops
  obtain ⟨hparse, hcanonical, hrun⟩ := toText_read_back config
  have hread : Description.parse config.limits
      "support(A, b, inf).\natt(b, b, -inf).\narg(B, 1).\narg(a)." = .ok f := by decide +kernel
  have room : (new config).drawnBy ops < Graph.lastNumber := by decide +kernel
  exact ⟨hparse _ f hread, hcanonical _, (hrun ops room).1⟩

end Session

end Argumentation
