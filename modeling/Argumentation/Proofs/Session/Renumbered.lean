import Argumentation.Proofs.Session.Saved

/-!
# Relations that are numbered anew

A project document holds the number of each relation, but it is not read.  The relations of a
session that is opened are numbered from one in the order in which the description says them, all
attacks before all supports (`OpenedAs.number_eq`).  So a relation keeps its number if it stood at
that place already, and otherwise its number is given to another relation or to none
(`keepsNumber_iff`).

Main statement: `saved_renumbered`.
-/

namespace Argumentation.Session

open Reconcile

variable {s t : Session} {f : Framework}

/-- Whether a relation is found by its number in a session. -/
def KeepsNumber (t : Session) (r : Relation) : Prop :=
  ∃ q, t.graph.relation? r.id = some q ∧ q.key = r.key

section Numbers

variable (opened : s.OpenedAs f t) (distinct : f.Distinct)
include opened

/-- There is a relation for everything that the framework says. -/
theorem OpenedAs.exists_relation {key : RelationKey} (h : key ∈ f.relations.keys) :
    ∃ q ∈ t.graph.relations, q.key = key := by
  obtain ⟨e, he, rfl⟩ := List.mem_map.1 h
  obtain ⟨i, hi, rfl⟩ := List.getElem_of_mem he
  rw [opened.relations]
  exact ⟨_, List.mem_mapIdx.2 ⟨i, hi, rfl⟩, rfl⟩

include distinct

/-- The number of a relation tells where the framework has it. -/
theorem OpenedAs.number_eq (room : f.relations.length < Graph.lastNumber) {q : Relation}
    (hq : q ∈ t.graph.relations) : q.id.number.toNat = f.relations.keys.idxOf q.key + 1 := by
  rw [opened.relations] at hq
  obtain ⟨i, hi, rfl⟩ := List.mem_mapIdx.1 hq
  have hkeys : i < f.relations.keys.length := by rwa [Assoc.keys, List.length_map]
  have hkey : (newLink (1 + UInt64.ofNat i) f.relations[i]).key = f.relations.keys[i] := by
    simp only [Assoc.keys, List.getElem_map]
    rfl
  rw [toNat_number_newLink (Nat.lt_trans hi room), hkey, distinct.relations.idxOf_getElem]

/-- A relation keeps its number if it is where the framework has it, and not otherwise. -/
theorem keepsNumber_iff (room : f.relations.length < Graph.lastNumber) {r : Relation}
    (hr : r.key ∈ f.relations.keys) :
    t.KeepsNumber r ↔ r.id.number.toNat = f.relations.keys.idxOf r.key + 1 := by
  constructor
  · rintro ⟨q, hfound, hkey⟩
    obtain ⟨hq, hid⟩ := Graph.mem_of_relation? hfound
    rw [← hid, ← hkey]
    exact opened.number_eq distinct room hq
  · intro hnumber
    obtain ⟨q, hq, hkey⟩ := opened.exists_relation hr
    have hid : q.id = r.id := by
      have heq := opened.number_eq distinct room hq
      rw [hkey, ← hnumber] at heq
      exact congrArg RelationId.mk (UInt64.toNat_inj.1 heq)
    exact ⟨q, opened.sound.relation?_eq_some_iff.2 ⟨hq, hid⟩, hkey⟩

end Numbers

/-- When a session that is reached is saved and opened again, a relation keeps its number exactly
if the number tells where the description has the relation. -/
theorem saved_renumbered (config : Config) (ops : List Operation)
    (room : (new config).drawnBy ops < Graph.lastNumber) {s : Session}
    (hs : (new config).run ops = s) (countable : s.graph.Countable)
    (placed : s.graph.isPlaced = true) (date : String) :
    ∃ f t outcome, Description.parse config.limits s.description = .ok f ∧
      (new config).importText (s.exportText date .project) .project = (t, .ok outcome) ∧
      (∀ q ∈ t.graph.relations, q.id.number.toNat = f.relations.keys.idxOf q.key + 1) ∧
      ∀ r ∈ s.graph.relations,
        t.KeepsNumber r ↔ r.id.number.toNat = f.relations.keys.idxOf r.key + 1 := by
  have agrees : Agrees config _ s := hs ▸ run_agrees config ops room
  obtain ⟨f, hparse, hsame, hroom, t, outcome, himport, opened⟩ :=
    agrees.exists_openedAs countable date
  have distinct : f.Distinct := (Description.parse_meets hparse).toDistinct
  refine ⟨f, t, outcome, hparse, ?_, fun q hq => opened.number_eq distinct hroom hq,
    fun r hr => ?_⟩
  · rw [importText_exportText countable, placed, himport]
    rfl
  · have hkey : r.key ∈ s.graph.relationEntries.keys := by
      rw [Graph.keys_relationEntries]
      exact List.mem_map_of_mem hr
    have hmatched := (matched_of_said agrees.sound distinct hsame).2.1
    exact keepsNumber_iff opened distinct hroom (hmatched.subset_keys hkey)

/-- A support that is drawn before an attack.  The description says the attack first. -/
def supported : List Operation :=
  [.applyDescription "arg(a).\narg(b).", .edit (.addRelation ⟨.support, "a", "b"⟩ none),
    .edit (.addRelation ⟨.attack, "b", "a"⟩ none)]

/-- The two relations change their numbers. -/
theorem saved_renumbered_supported :
    let s := (new {}).run supported
    s.graph.relations.length = 2 ∧
      ∃ t outcome,
        (new {}).importText (s.exportText "" .project) .project = (t, .ok outcome) ∧
          ∀ r ∈ s.graph.relations, ¬ t.KeepsNumber r := by
  intro s
  have countable : s.graph.Countable := by decide +kernel
  obtain ⟨f, t, outcome, hparse, himport, -, hkeeps⟩ := saved_renumbered {} supported
    (by decide +kernel) (show _ = s from rfl) countable (by decide +kernel) ""
  have hsaid : Description.parse {} s.description =
      .ok ⟨[("a", none), ("b", none)], [(("b", "a"), none)], [(("a", "b"), none)]⟩ := by
    decide +kernel
  rw [hsaid] at hparse
  cases hparse
  have hmoved : ∀ r ∈ s.graph.relations, r.id.number.toNat ≠
      [(⟨.attack, "b", "a"⟩ : RelationKey), ⟨.support, "a", "b"⟩].idxOf r.key + 1 := by
    decide +kernel
  refine ⟨by decide +kernel, t, outcome, himport, fun r hr => ?_⟩
  rw [hkeeps r hr]
  exact hmoved r hr

/-- After the first of two relations was removed, the second is not found by its number in what is
opened again. -/
theorem saved_number_lost :
    let s := (new {}).run [.applyDescription "arg(a).\narg(b).\natt(a,b).\natt(b,a).",
      .edit (.removeRelation ⟨1⟩)]
    (s.graph.isPlaced = true ∧ s.graph.relationIds = [⟨2⟩]) ∧
      ((new {}).importText (s.exportText "" .project) .project).1.graph.relation? ⟨2⟩ = none := by
  intro s
  have countable : s.graph.Countable := by decide +kernel
  have placed : s.graph.isPlaced = true := by decide +kernel
  refine ⟨⟨placed, by decide +kernel⟩, ?_⟩
  rw [importText_exportText countable, if_pos placed]
  decide +kernel

end Argumentation.Session
