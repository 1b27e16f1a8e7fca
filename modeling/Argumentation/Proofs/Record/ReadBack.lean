import Argumentation.Proofs.Record.Project

/-!
# Project documents that come back unchanged

Names, texts, relation numbers and what is absent come back from the text of a document whatever
they are.  Only numbers may change: the reader rounds a long numeral more than once
(`Json.reread?`).  So a document comes back unchanged if and only if its numbers do, each on its
own (`reread_eq_iff`).

Main statement: `ofText_toText_eq_iff`.
-/

namespace Argumentation.Project

/-! ## The numbers of a document -/

/-- The coordinates and the weight of an argument, as far as it has them. -/
def Node.numbers (n : Node) : List Binary64 :=
  n.weight.toList ++ n.position.toList.flatMap fun p => [p.x, p.y]

/-- The numbers of a document that are not counts. -/
def numbers (p : Project) : List Binary64 :=
  p.nodes.flatMap Node.numbers ++ p.edges.flatMap (·.weight.toList)

/-- Whether a number comes back from the text of a document as it was. -/
def Survives (x : Binary64) : Prop := Json.reread? x = some x

instance (x : Binary64) : Decidable (Survives x) :=
  inferInstanceAs (Decidable (Json.reread? x = some x))

theorem Survives.isFinite {x : Binary64} (h : Survives x) : x.isFinite = true := by
  by_contra hx
  rw [Survives, Json.reread?_of_not (Bool.eq_false_iff.2 hx)] at h
  cases h

/-! ## Parts of a document -/

theorem bind_reread?_eq_iff {w : Option Binary64} :
    w.bind Json.reread? = w ↔ ∀ x ∈ w.toList, Survives x := by
  cases w with
  | none => simp
  | some x => simp [Survives]

theorem reread?_position_eq_iff {p : Position} :
    p.reread? = some p ↔ Survives p.x ∧ Survives p.y := by
  constructor
  · intro h
    obtain ⟨x, hx, hrest⟩ := Option.bind_eq_some_iff.1 h
    obtain ⟨y, hy, hp⟩ := Option.bind_eq_some_iff.1 hrest
    cases hp
    exact ⟨hx, hy⟩
  · rintro ⟨hx, hy⟩
    rw [Survives] at hx hy
    rw [Position.reread?, hx, hy]
    rfl

theorem Node.isFinite_iff {n : Node} :
    n.isFinite = true ↔ ∀ p ∈ n.position, p.x.isFinite = true ∧ p.y.isFinite = true := by
  cases h : n.position with
  | none => simp [isFinite, h]
  | some p => simp [isFinite, h, Position.isFinite]

/-- An argument comes back unchanged if its numbers do. -/
theorem Node.reread_eq_iff {n : Node} : n.reread = n ↔ ∀ x ∈ n.numbers, Survives x := by
  have hposition :
      n.position.bind Position.reread? = n.position ↔
        ∀ x ∈ n.position.toList.flatMap fun p => [p.x, p.y], Survives x := by
    cases n.position with
    | none => simp
    | some p => simp [reread?_position_eq_iff]
  obtain ⟨id, weight, description, position⟩ := n
  rw [numbers, List.forall_mem_append, ← bind_reread?_eq_iff, ← hposition, reread]
  simp

theorem Edge.reread_eq_iff {e : Edge} : e.reread = e ↔ ∀ x ∈ e.weight.toList, Survives x := by
  obtain ⟨id, source, target, kind, weight⟩ := e
  rw [← bind_reread?_eq_iff, reread]
  simp

theorem map_eq_self_iff {α : Type} {f : α → α} {as : List α} :
    as.map f = as ↔ ∀ a ∈ as, f a = a := by
  simpa using List.map_inj_left (f := f) (g := id) (l := as)

/-- A document comes back unchanged if its numbers do. -/
theorem reread_eq_iff {p : Project} : p.reread = p ↔ ∀ x ∈ p.numbers, Survives x := by
  obtain ⟨metadata, nodes, edges, layout, description⟩ := p
  have hnodes : nodes.map Node.reread = nodes ↔ ∀ x ∈ nodes.flatMap Node.numbers, Survives x := by
    simp only [map_eq_self_iff, Node.reread_eq_iff, List.forall_mem_flatMap]
  have hedges : edges.map Edge.reread = edges ↔
      ∀ x ∈ edges.flatMap (·.weight.toList), Survives x := by
    simp only [map_eq_self_iff, Edge.reread_eq_iff, List.forall_mem_flatMap]
  rw [numbers, List.forall_mem_append, ← hnodes, ← hedges, reread]
  simp

/-- A document of finite numbers has finite places. -/
theorem isFinite_of_numbers {p : Project} (h : ∀ x ∈ p.numbers, x.isFinite = true) :
    p.isFinite = true := by
  refine List.all_eq_true.2 fun n hn => Node.isFinite_iff.2 fun q hq => ?_
  have hmem : ∀ x ∈ [q.x, q.y], x ∈ p.numbers := by
    intro x hx
    refine List.mem_append_left _ (List.mem_flatMap.2 ⟨n, hn, List.mem_append_right _ ?_⟩)
    exact List.mem_flatMap.2 ⟨q, Option.mem_toList.2 hq, hx⟩
  exact ⟨h _ (hmem _ (by simp)), h _ (hmem _ (by simp))⟩

/-! ## Documents -/

/-- The text of a document of finite numbers is always read, and all that may have changed is the
value of a number.  It is read as the document that was written if and only if each of the numbers
is read as it was. -/
theorem ofText_toText_eq_iff (p : Project)
    (counted : ∀ m ∈ p.metadata, m.nodeCount < UInt64.size ∧ m.edgeCount < UInt64.size)
    (finite : ∀ x ∈ p.numbers, x.isFinite = true) :
    ofText p.toText = .ok p.reread ∧
      (ofText p.toText = .ok p ↔ ∀ x ∈ p.numbers, Json.reread? x = some x) := by
  have hread : ofText p.toText = .ok p.reread := by
    rw [ofText_toText counted, if_pos (isFinite_of_numbers finite)]
  refine ⟨hread, ?_⟩
  rw [hread, Except.ok.injEq]
  exact reread_eq_iff

/-- Quotes, backslashes and controls, the greatest relation number and a number with an exponent
come back, and so does a node that has nothing but a name. -/
theorem ofText_toText_eq_iff_escaped :
    let p : Project :=
      { metadata := some ⟨"\"bees\" \\ \x01", "", "é\n", 2, 18446744073709551615⟩
        nodes := [⟨"a\t", some (1 / 10), some "\x1f\x7f", some ⟨-0, 1000000000000000000000⟩⟩,
          ⟨"", none, none, none⟩]
        edges := [⟨⟨18446744073709551615⟩, "a", "\u2028", .support, some (-1 / 4)⟩]
        layout := none
        description := some "" }
    (∀ x ∈ p.numbers, Json.reread? x = some x) ∧ ofText p.toText = .ok p := by
  intro p
  have counted : ∀ m ∈ p.metadata, m.nodeCount < UInt64.size ∧ m.edgeCount < UInt64.size := by
    decide
  have finite : ∀ x ∈ p.numbers, x.isFinite = true := by decide +kernel
  have survive : ∀ x ∈ p.numbers, Json.reread? x = some x := by decide +kernel
  obtain ⟨-, hback⟩ := ofText_toText_eq_iff p counted finite
  exact ⟨survive, hback.2 survive⟩

end Argumentation.Project
