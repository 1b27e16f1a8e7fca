import Mathlib.Data.List.Nodup
import Mathlib.Data.List.Perm.Subperm

/-!
# Arenas

An arena holds nodes and edges in numbered slots.  A slot keeps its number for as long as it is
taken; a slot that is left may be taken again.  An edge joins two slots of nodes, and it goes
when one of them does.

`Arena` lists what can be asked of an arena, and `LawfulArena` how the answers hang together.
The laws leave open which vacant slot is taken next and in which order the edges of a node are
listed, so nothing that is proved from them depends on either.

`SlotArena` is an arena made of two lists of slots.  It takes the first vacant one.
-/

namespace Argumentation

/-- An edge of an arena. -/
structure ArenaEdge (E : Type) where
  /-- The slot it starts from. -/
  source : Nat
  /-- The slot it leads to. -/
  target : Nat
  /-- What it carries. -/
  weight : E

/-- Whether an edge starts from a slot or leads to it. -/
def ArenaEdge.touches {E : Type} (i : Nat) (d : ArenaEdge E) : Bool :=
  d.source = i || d.target = i

/-- Nodes and edges in numbered slots. -/
class Arena (N E : outParam Type) (G : Type) where
  /-- The arena without nodes and edges. -/
  empty : G
  /-- The node in a slot. -/
  node? : G → Nat → Option N
  /-- The edge in a slot. -/
  edge? : G → Nat → Option (ArenaEdge E)
  /-- The number of edges. -/
  edgeCount : G → Nat
  /-- The slots of the edges that start from a node. -/
  outgoing : G → Nat → List Nat
  /-- The slots of the edges that lead to a node. -/
  incoming : G → Nat → List Nat
  /-- Adds a node.  Its slot comes with the arena. -/
  addNode : G → N → Nat × G
  /-- Removes a node and its edges. -/
  removeNode : G → Nat → G
  /-- Adds an edge between two nodes.  Its slot comes with the arena. -/
  addEdge : G → Nat → Nat → E → Nat × G
  /-- Removes an edge. -/
  removeEdge : G → Nat → G
  /-- Changes a node. -/
  modifyNode : G → Nat → (N → N) → G
  /-- Changes every node. -/
  mapNodes : G → (N → N) → G
  /-- Changes what an edge carries. -/
  modifyEdge : G → Nat → (E → E) → G

open Arena in
/-- How the answers of an arena hang together. -/
class LawfulArena {N E : outParam Type} (G : Type) [Arena N E G] : Prop where
  /-- The empty arena has no nodes. -/
  node?_empty : ∀ i, node? (empty : G) i = none
  /-- The empty arena has no edges. -/
  edge?_empty : ∀ e, edge? (empty : G) e = none
  /-- A node is put into a vacant slot. -/
  vacant_addNode : ∀ (g : G) n, node? g (addNode g n).1 = none
  /-- The node is there then, and the others stay. -/
  node?_addNode : ∀ (g : G) n i,
    node? (addNode g n).2 i = if i = (addNode g n).1 then some n else node? g i
  /-- No edge comes with a node. -/
  edge?_addNode : ∀ (g : G) n e, edge? (addNode g n).2 e = edge? g e
  /-- A node goes, and the others stay. -/
  node?_removeNode : ∀ (g : G) j i, node? (removeNode g j) i = if i = j then none else node? g i
  /-- Its edges go with it. -/
  edge?_removeNode : ∀ (g : G) j e,
    edge? (removeNode g j) e = (edge? g e).filter (!·.touches j)
  /-- An edge is put into a vacant slot. -/
  vacant_addEdge : ∀ (g : G) s t w, (node? g s).isSome → (node? g t).isSome →
    edge? g (addEdge g s t w).1 = none
  /-- The edge is there then, and the others stay. -/
  edge?_addEdge : ∀ (g : G) s t w e, (node? g s).isSome → (node? g t).isSome →
    edge? (addEdge g s t w).2 e = if e = (addEdge g s t w).1 then some ⟨s, t, w⟩ else edge? g e
  /-- An edge that comes leaves the nodes alone. -/
  node?_addEdge : ∀ (g : G) s t w i, (node? g s).isSome → (node? g t).isSome →
    node? (addEdge g s t w).2 i = node? g i
  /-- An edge goes, and the others stay. -/
  edge?_removeEdge : ∀ (g : G) j e, edge? (removeEdge g j) e = if e = j then none else edge? g e
  /-- An edge that goes leaves the nodes alone. -/
  node?_removeEdge : ∀ (g : G) j i, node? (removeEdge g j) i = node? g i
  /-- One node is changed. -/
  node?_modifyNode : ∀ (g : G) j f i,
    node? (modifyNode g j f) i = if i = j then (node? g i).map f else node? g i
  /-- The edges stay. -/
  edge?_modifyNode : ∀ (g : G) j f e, edge? (modifyNode g j f) e = edge? g e
  /-- Every node is changed. -/
  node?_mapNodes : ∀ (g : G) f i, node? (mapNodes g f) i = (node? g i).map f
  /-- The edges stay. -/
  edge?_mapNodes : ∀ (g : G) f e, edge? (mapNodes g f) e = edge? g e
  /-- What one edge carries is changed. -/
  edge?_modifyEdge : ∀ (g : G) j f e, edge? (modifyEdge g j f) e =
    if e = j then (edge? g e).map fun d => { d with weight := f d.weight } else edge? g e
  /-- The nodes stay. -/
  node?_modifyEdge : ∀ (g : G) j f i, node? (modifyEdge g j f) i = node? g i
  /-- The edges from a node are listed. -/
  mem_outgoing : ∀ (g : G) i e, e ∈ outgoing g i ↔ ∃ d, edge? g e = some d ∧ d.source = i
  /-- The edges to a node are listed. -/
  mem_incoming : ∀ (g : G) i e, e ∈ incoming g i ↔ ∃ d, edge? g e = some d ∧ d.target = i
  /-- The edges are counted. -/
  edgeCount_eq : ∀ (g : G) (es : List Nat), es.Nodup →
    (∀ e, e ∈ es ↔ (edge? g e).isSome) → edgeCount g = es.length

/-! ## Lists of slots -/

namespace Slots

variable {α : Type}

/-- What is in a slot. -/
def get? (l : List (Option α)) (i : Nat) : Option α := l[i]?.join

/-- The first vacant slot. -/
def vacant (l : List (Option α)) : Nat := l.findIdx (·.isNone)

/-- Takes the first vacant slot. -/
def fill (l : List (Option α)) (a : α) : List (Option α) :=
  if vacant l < l.length then l.set (vacant l) (some a) else l ++ [some a]

theorem get?_vacant (l : List (Option α)) : get? l (vacant l) = none := by
  cases Nat.lt_or_ge (vacant l) l.length with
  | inl h =>
    have hnone : (l[vacant l]).isNone := List.findIdx_getElem (w := h)
    rw [get?, List.getElem?_eq_getElem h, Option.isNone_iff_eq_none.1 hnone]
    rfl
  | inr h =>
    rw [get?, List.getElem?_eq_none h]
    rfl

theorem get?_fill (l : List (Option α)) (a : α) (i : Nat) :
    get? (fill l a) i = if i = vacant l then some a else get? l i := by
  unfold fill
  split
  · next h =>
    rw [get?, List.getElem?_set, get?]
    cases decEq (vacant l) i with
    | isTrue heq => simp [← heq, h]
    | isFalse hne => simp [hne, Ne.symm hne]
  · next h =>
    have hlength : vacant l = l.length :=
      Nat.le_antisymm List.findIdx_le_length (Nat.not_lt.1 h)
    rw [get?, List.getElem?_append, get?, hlength]
    rcases Nat.lt_trichotomy i l.length with hlt | heq | hgt
    · simp [hlt, Nat.ne_of_lt hlt]
    · simp [heq]
    · have hsub : i - l.length ≠ 0 := Nat.sub_ne_zero_of_lt hgt
      simp [Nat.not_lt_of_gt hgt, Nat.ne_of_gt hgt, hsub]

theorem get?_set_none (l : List (Option α)) (j i : Nat) :
    get? (l.set j none) i = if i = j then none else get? l i := by
  rw [get?, List.getElem?_set, get?]
  cases decEq j i with
  | isTrue heq =>
    subst heq
    simp only [if_true]
    split <;> rfl
  | isFalse hne => simp [hne, Ne.symm hne]

theorem get?_map {β : Type} (l : List (Option α)) (f : Option α → Option β) (hf : f none = none)
    (i : Nat) : get? (l.map f) i = f (get? l i) := by
  rw [get?, List.getElem?_map, get?]
  cases l[i]? with
  | none => exact hf.symm
  | some a => rfl

theorem get?_modify (l : List (Option α)) (j : Nat) (f : α → α) (i : Nat) :
    get? (l.modify j (Option.map f)) i = if i = j then (get? l i).map f else get? l i := by
  rw [get?, List.getElem?_modify, get?]
  cases decEq j i with
  | isTrue heq =>
    subst heq
    cases l[j]? <;> simp
  | isFalse hne => simp [hne, Ne.symm hne]

theorem lt_length_of_isSome {l : List (Option α)} {i : Nat} (h : (get? l i).isSome) :
    i < l.length := by
  by_contra hge
  rw [get?, List.getElem?_eq_none (Nat.not_lt.1 hge)] at h
  cases h

/-- The slots whose content passes a test. -/
def those (l : List (Option α)) (p : α → Bool) : List Nat :=
  (List.range l.length).filter fun i => (get? l i).any p

theorem mem_those {l : List (Option α)} {p : α → Bool} {i : Nat} :
    i ∈ those l p ↔ ∃ a, get? l i = some a ∧ p a = true := by
  rw [those, List.mem_filter, List.mem_range, Option.any_eq_true_iff_get]
  constructor
  · rintro ⟨-, h, hp⟩
    exact ⟨_, (Option.some_get h).symm, hp⟩
  · rintro ⟨a, ha, hp⟩
    have h : (get? l i).isSome := by rw [ha]; rfl
    refine ⟨lt_length_of_isSome h, h, ?_⟩
    simp only [ha, Option.get_some]
    exact hp

theorem nodup_those (l : List (Option α)) (p : α → Bool) : (those l p).Nodup :=
  List.nodup_range.filter _

end Slots

/-! ## An arena of slots -/

/-- An arena made of two lists of slots. -/
structure SlotArena (N E : Type) where
  /-- The slots of the nodes. -/
  nodes : List (Option N) := []
  /-- The slots of the edges. -/
  edges : List (Option (ArenaEdge E)) := []

namespace SlotArena

variable {N E : Type}

instance : Arena N E (SlotArena N E) where
  empty := {}
  node? g := Slots.get? g.nodes
  edge? g := Slots.get? g.edges
  edgeCount g := (Slots.those g.edges fun _ => true).length
  outgoing g i := Slots.those g.edges (·.source = i)
  incoming g i := Slots.those g.edges (·.target = i)
  addNode g n := (Slots.vacant g.nodes, { g with nodes := Slots.fill g.nodes n })
  removeNode g i :=
    { nodes := g.nodes.set i none
      edges := g.edges.map (Option.filter (!·.touches i)) }
  addEdge g s t w := (Slots.vacant g.edges, { g with edges := Slots.fill g.edges ⟨s, t, w⟩ })
  removeEdge g e := { g with edges := g.edges.set e none }
  modifyNode g i f := { g with nodes := g.nodes.modify i (Option.map f) }
  mapNodes g f := { g with nodes := g.nodes.map (Option.map f) }
  modifyEdge g e f :=
    { g with edges := g.edges.modify e (Option.map fun d => { d with weight := f d.weight }) }

instance : LawfulArena (SlotArena N E) where
  node?_empty _ := rfl
  edge?_empty _ := rfl
  vacant_addNode g _ := Slots.get?_vacant g.nodes
  node?_addNode g n := Slots.get?_fill g.nodes n
  edge?_addNode _ _ _ := rfl
  node?_removeNode g := Slots.get?_set_none g.nodes
  edge?_removeNode g j := Slots.get?_map g.edges _ rfl
  vacant_addEdge g _ _ _ _ _ := Slots.get?_vacant g.edges
  edge?_addEdge g s t w e _ _ := Slots.get?_fill g.edges ⟨s, t, w⟩ e
  node?_addEdge _ _ _ _ _ _ _ := rfl
  edge?_removeEdge g := Slots.get?_set_none g.edges
  node?_removeEdge _ _ _ := rfl
  node?_modifyNode g := Slots.get?_modify g.nodes
  edge?_modifyNode _ _ _ _ := rfl
  node?_mapNodes g f := Slots.get?_map g.nodes _ rfl
  edge?_mapNodes _ _ _ := rfl
  edge?_modifyEdge g j f := Slots.get?_modify g.edges j _
  node?_modifyEdge _ _ _ _ := rfl
  mem_outgoing g i e := by
    have hmem := Slots.mem_those (l := g.edges) (p := (·.source = i)) (i := e)
    simp only [decide_eq_true_eq] at hmem
    exact hmem
  mem_incoming g i e := by
    have hmem := Slots.mem_those (l := g.edges) (p := (·.target = i)) (i := e)
    simp only [decide_eq_true_eq] at hmem
    exact hmem
  edgeCount_eq g es hnodup hmem := by
    have hperm : (Slots.those g.edges fun _ => true).Perm es := by
      rw [List.perm_ext_iff_of_nodup (Slots.nodup_those _ _) hnodup]
      intro e
      rw [Slots.mem_those, hmem, Option.isSome_iff_exists]
      simp [Arena.edge?]
    exact hperm.length_eq

end SlotArena

end Argumentation
