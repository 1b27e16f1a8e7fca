import Argumentation.Proofs.Json.Exact
import Argumentation.Proofs.Json.RoundTrip
import Argumentation.Record.Project

/-!
# Project documents read back

A project document that is written is read back with the same names, texts and relations
(`ofText_toText`).  Numbers may be read back differently.  One that is finite is read as some
number, and `Json.reread?` says as which: as itself if its text is short, and otherwise perhaps as
a neighbour.  An infinity, or what is no number, is written as null.  Null stands for a weight that
is absent, but not for a coordinate, so a document with such a place is not read at all.
-/

namespace Argumentation

open DataTree

/-! ## Single values -/

namespace Json

/-- What a number in a document is read as. -/
def reread? (x : Binary64) : Option Binary64 := number? (float x).document

theorem isFinite_float (x : Binary64) : (float x).isFinite = true := by
  unfold float
  split
  · next h => exact h
  · rfl

theorem document_float {x : Binary64} (h : x.isFinite = true) :
    (float x).document = .numeral (Number.float x).numeral := by
  rw [float, if_pos h, document]

theorem document_float_of_not {x : Binary64} (h : x.isFinite = false) :
    (float x).document = .null := by
  rw [float, if_neg (ne_true_of_eq_false h), document]

/-- A finite number is read back as some number. -/
theorem exists_reread? {x : Binary64} (h : x.isFinite = true) : ∃ y, reread? x = some y := by
  obtain ⟨y, hy⟩ := exists_value?_float h
  refine ⟨y, ?_⟩
  rw [reread?, document_float h]
  change (Number.float x).numeral.value?.map Number.toBinary64 = some y
  rw [hy]
  rfl

/-- A number with a short text is read back as it was. -/
theorem reread?_of_isShort {x : Binary64} (h : x.isFinite = true) (short : IsShort x) :
    reread? x = some x := by
  rw [reread?, document_float h]
  change (Number.float x).numeral.value?.map Number.toBinary64 = some x
  rw [value?_of_isShort h short]
  rfl

theorem reread?_of_not {x : Binary64} (h : x.isFinite = false) : reread? x = none := by
  rw [reread?, document_float_of_not h]
  rfl

/-- A number that may be absent is read as absent if it is not finite. -/
theorem optional_number? (x : Option Binary64) :
    optional number? (some (option float x).document) = some (x.bind reread?) := by
  cases x with
  | none => rfl
  | some x =>
    rw [option, Option.bind_some, optional]
    cases hx : x.isFinite with
    | true =>
      obtain ⟨y, hy⟩ := exists_reread? hx
      have hpresent : isAbsent (float x).document = false := by
        rw [document_float hx]
        rfl
      rw [if_neg (ne_true_of_eq_false hpresent), ← reread?, hy, Option.map_some]
    | false =>
      have habsent : isAbsent (float x).document = true := by
        rw [document_float_of_not hx]
        rfl
      rw [if_pos habsent, reread?_of_not hx]

theorem optional_text? (s : Option String) :
    optional text? (some (option Json.text s).document) = some s := by
  cases s <;> rfl

theorem natural?_natural {n : Nat} (h : n < UInt64.size) :
    natural? (natural n).document = some n := by
  have hnumber : (natural n).document.number? = some (.integer n) := by
    rw [natural, document]
    exact value?_natural h
  simp only [natural?, hnumber, Int.natCast_nonneg, if_true, Int.toNat_natCast]

end Json

/-! ## Relations -/

/-- A relation number is read back from its text. -/
theorem RelationId.ofText?_toText (id : RelationId) : RelationId.ofText? id.toText = some id := by
  have htext : id.toText.toList = mark.toList ++ Nat.toDigits 10 id.number.toNat := by
    rw [toText, String.toList_append, Nat.repr_eq_ofList_toDigits, String.toList_ofList]
  have hdigits : id.toText.toList.drop mark.length = Nat.toDigits 10 id.number.toNat := by
    rw [htext, ← String.length_toList, List.drop_left]
  have hmark : mark.toList.isPrefixOf id.toText.toList = true := by
    rw [htext, List.isPrefixOf_iff_prefix]
    exact List.prefix_append _ _
  have hall : (Nat.toDigits 10 id.number.toNat).all isDigit = true :=
    List.all_eq_true.2 fun c => isDigit_of_mem_toDigits
  have hvalue : digitsValue (Nat.toDigits 10 id.number.toNat) = id.number.toNat :=
    Nat.ofDigitChars_ten_toDigits
  unfold ofText?
  simp only [hdigits, hvalue]
  rw [if_pos ⟨hmark, Nat.toDigits_ne_nil, hall, id.number.toNat_lt⟩, UInt64.ofNat_toNat]

theorem RelationId.read?_toJson (id : RelationId) :
    RelationId.read? id.toJson.document = some id := RelationId.ofText?_toText id

theorem RelationKind.read?_toJson (k : RelationKind) :
    RelationKind.read? k.toJson.document = some k := by
  cases k <;> rfl

/-! ## Records -/

namespace Json

theorem document_array (vs : List Json) : (Json.array vs).document = .array (vs.map document) := by
  have hmap : documents vs = vs.map document := by
    induction vs with
    | nil => rfl
    | cons v vs ih => rw [documents, ih, List.map_cons]
  rw [document, hmap]

/-- The items of a list are read one by one. -/
theorem listOf_map {α β : Type} (write : α → Json) (read : Document → Option β) (as : List α) :
    listOf read (Json.array (as.map write)).document =
      as.mapM fun a => read (write a).document := by
  rw [document_array, List.map_map]
  change (as.map (document ∘ write)).mapM read = _
  rw [List.mapM_map]
  rfl

end Json

namespace Position

/-- Whether both coordinates are finite. -/
def isFinite (p : Position) : Bool := p.x.isFinite && p.y.isFinite

/-- What a place in a document is read as. -/
def reread? (p : Position) : Option Position := do
  some ⟨← Json.reread? p.x, ← Json.reread? p.y⟩

/-- Whether a place is read back from a document as it was. -/
def IsExact (p : Position) : Prop := p.reread? = some p

instance (p : Position) : Decidable p.IsExact := inferInstanceAs (Decidable (p.reread? = some p))

/-- A place with short coordinates is read back as it was. -/
theorem isExact_of_isShort {p : Position} (h : p.isFinite = true) (hx : Json.IsShort p.x)
    (hy : Json.IsShort p.y) : p.IsExact := by
  rw [isFinite, Bool.and_eq_true] at h
  rw [IsExact, reread?, Json.reread?_of_isShort h.1 hx, Json.reread?_of_isShort h.2 hy]
  rfl

theorem read?_toJson (p : Position) : read? p.toJson.document = p.reread? := rfl

/-- A finite place is read back as some place. -/
theorem exists_reread? {p : Position} (h : p.isFinite = true) : ∃ q, p.reread? = some q := by
  rw [isFinite, Bool.and_eq_true] at h
  obtain ⟨x, hx⟩ := Json.exists_reread? h.1
  obtain ⟨y, hy⟩ := Json.exists_reread? h.2
  exact ⟨⟨x, y⟩, by rw [reread?, hx, hy]; rfl⟩

theorem reread?_of_not {p : Position} (h : p.isFinite = false) : p.reread? = none := by
  rw [isFinite, Bool.and_eq_false_iff] at h
  unfold reread?
  cases h with
  | inl hx =>
    rw [Json.reread?_of_not hx]
    rfl
  | inr hy =>
    rw [Json.reread?_of_not hy]
    cases Json.reread? p.x <;> rfl

end Position

namespace Project

theorem Metadata.read?_toJson {m : Metadata} (hnodes : m.nodeCount < UInt64.size)
    (hedges : m.edgeCount < UInt64.size) : Metadata.read? m.toJson.document = some m := by
  change (do
    some (⟨← some m.projectName, ← some m.exportDate, ← some m.version,
      ← natural? (Json.natural m.nodeCount).document,
      ← natural? (Json.natural m.edgeCount).document⟩ : Metadata)) = some m
  rw [Json.natural?_natural hnodes, Json.natural?_natural hedges]
  rfl

/-- Whether an argument of a document has no place, or a finite one. -/
def Node.isFinite (n : Node) : Bool := n.position.all Position.isFinite

/-- What an argument of a document is read as. -/
def Node.reread (n : Node) : Node :=
  { n with
    weight := n.weight.bind Json.reread?
    position := n.position.bind Position.reread? }

/-- What a relation of a document is read as. -/
def Edge.reread (e : Edge) : Edge := { e with weight := e.weight.bind Json.reread? }

theorem optional_position? (p : Option Position) :
    optional Position.read? (some (Json.option Position.toJson p).document) =
      if p.all Position.isFinite then some (p.bind Position.reread?) else none := by
  cases p with
  | none => rfl
  | some p =>
    change p.reread?.map some = if p.isFinite then some p.reread? else none
    cases hp : p.isFinite with
    | true =>
      obtain ⟨q, hq⟩ := Position.exists_reread? hp
      rw [hq]
      rfl
    | false =>
      rw [Position.reread?_of_not hp]
      rfl

/-- An argument is read back unless its place is not finite. -/
theorem Node.read?_toJson (n : Node) :
    Node.read? n.toJson.document = if n.isFinite then some n.reread else none := by
  change (do
    some (⟨← some n.id, ← optional number? (some (Json.option Json.float n.weight).document),
      ← optional text? (some (Json.option Json.text n.description).document),
      ← optional Position.read? (some (Json.option Position.toJson n.position).document)⟩ :
      Node)) = _
  rw [Json.optional_number?, Json.optional_text?, optional_position?, isFinite, reread]
  cases n.position.all Position.isFinite <;> rfl

theorem Edge.read?_toJson (e : Edge) : Edge.read? e.toJson.document = some e.reread := by
  change (do
    some (⟨← RelationId.read? e.id.toJson.document, ← some e.source, ← some e.target,
      ← RelationKind.read? e.kind.toJson.document,
      ← optional number? (some (Json.option Json.float e.weight).document)⟩ : Edge)) = _
  rw [RelationId.read?_toJson, RelationKind.read?_toJson, Json.optional_number?]
  rfl

/-- Whether all places of a document are finite. -/
def isFinite (p : Project) : Bool := p.nodes.all Node.isFinite

/-- What a document is read as. -/
def reread (p : Project) : Project :=
  { p with nodes := p.nodes.map Node.reread, edges := p.edges.map Edge.reread }

theorem mapM_read?_toJson (nodes : List Node) :
    (nodes.mapM fun n => Node.read? n.toJson.document) =
      if nodes.all Node.isFinite then some (nodes.map Node.reread) else none := by
  induction nodes with
  | nil => rfl
  | cons n nodes ih =>
    rw [List.mapM_cons, Node.read?_toJson, ih, List.all_cons, List.map_cons]
    cases n.isFinite <;> cases nodes.all Node.isFinite <;> rfl

theorem readGraph?_toJson (nodes : List Node) (edges : List Edge) :
    readGraph? (Json.object [("nodes", .array (nodes.map Node.toJson)),
      ("edges", .array (edges.map Edge.toJson))]).document =
      if nodes.all Node.isFinite then some (nodes.map Node.reread, edges.map Edge.reread)
      else none := by
  change (do
    some (← listOf Node.read? (Json.array (nodes.map Node.toJson)).document,
      ← listOf Edge.read? (Json.array (edges.map Edge.toJson)).document)) = _
  have hedges : (edges.mapM fun e => some e.reread) = some (edges.map Edge.reread) :=
    List.mapM_pure
  simp only [Json.listOf_map, mapM_read?_toJson, Edge.read?_toJson]
  rw [hedges]
  cases nodes.all Node.isFinite <;> rfl

theorem optional_metadata? {m : Option Metadata}
    (h : ∀ m' ∈ m, m'.nodeCount < UInt64.size ∧ m'.edgeCount < UInt64.size) :
    optional Metadata.read? (some (Json.option Metadata.toJson m).document) = some m := by
  cases m with
  | none => rfl
  | some m =>
    change (Metadata.read? m.toJson.document).map some = some (some m)
    rw [Metadata.read?_toJson (h m rfl).1 (h m rfl).2, Option.map_some]

theorem read?_toJson {p : Project}
    (h : ∀ m ∈ p.metadata, m.nodeCount < UInt64.size ∧ m.edgeCount < UInt64.size) :
    read? p.toJson.document = if p.isFinite then some p.reread else none := by
  change (do
    let metadata ← optional Metadata.read? (some (Json.option Metadata.toJson p.metadata).document)
    let graph ← readGraph? (Json.object [("nodes", .array (p.nodes.map Node.toJson)),
      ("edges", .array (p.edges.map Edge.toJson))]).document
    let layout ← optional text? (some (Json.option Json.text p.layout).document)
    let description ← optional text? (some (Json.option Json.text p.description).document)
    some (⟨metadata, graph.1, graph.2, layout, description⟩ : Project)) = _
  rw [optional_metadata? h, readGraph?_toJson, Json.optional_text?, Json.optional_text?, isFinite]
  cases p.nodes.all Node.isFinite <;> rfl

/-! ## Texts -/

theorem isFinite_option {α : Type} {write : α → Json} (h : ∀ a, (write a).isFinite = true)
    (a : Option α) : (Json.option write a).isFinite = true := by
  cases a with
  | none => rfl
  | some a => exact h a

theorem areFinite_map {α : Type} {write : α → Json} (h : ∀ a, (write a).isFinite = true)
    (as : List α) : Json.areFinite (as.map write) = true := by
  induction as with
  | nil => rfl
  | cons a as ih => rw [List.map_cons, Json.areFinite, h a, ih, Bool.and_self]

theorem isFinite_text (s : String) : (Json.text s).isFinite = true := rfl

theorem Metadata.isFinite_toJson (m : Metadata) : m.toJson.isFinite = true := rfl

theorem isFinite_position (p : Position) : p.toJson.isFinite = true := by
  simp only [Position.toJson, Json.isFinite, Json.areFiniteFields, Json.isFinite_float,
    Bool.and_self]

theorem Node.isFinite_toJson (n : Node) : n.toJson.isFinite = true := by
  simp only [Node.toJson, Json.isFinite, Json.areFiniteFields, isFinite_option Json.isFinite_float,
    isFinite_option isFinite_text, isFinite_option isFinite_position, Bool.and_self]

theorem Edge.isFinite_toJson (e : Edge) : e.toJson.isFinite = true := by
  simp only [Edge.toJson, RelationId.toJson, RelationKind.toJson, Json.isFinite,
    Json.areFiniteFields, isFinite_option Json.isFinite_float, Bool.and_self]

/-- A document is written with finite numbers only. -/
theorem isFinite_toJson (p : Project) : p.toJson.isFinite = true := by
  simp only [toJson, Json.isFinite, Json.areFiniteFields, areFinite_map Node.isFinite_toJson,
    areFinite_map Edge.isFinite_toJson, isFinite_option Metadata.isFinite_toJson,
    isFinite_option isFinite_text, Bool.and_self]

/-- The text of a document is read if all places are finite, and not otherwise. -/
theorem ofText_toText {p : Project}
    (h : ∀ m ∈ p.metadata, m.nodeCount < UInt64.size ∧ m.edgeCount < UInt64.size) :
    ofText p.toText = if p.isFinite then .ok p.reread else .error malformedJson := by
  rw [ofText, toText, Json.parse?_pretty p.isFinite_toJson, Option.bind_some, read?_toJson h]
  cases p.isFinite <;> rfl

end Project

end Argumentation
