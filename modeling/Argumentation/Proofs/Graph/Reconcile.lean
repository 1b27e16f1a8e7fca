import Argumentation.Proofs.Graph.Entries
import Argumentation.Proofs.Graph.Run

/-!
# Reconciliation reaches its target

A framework that a description yields declares nothing twice, its identifiers are
canonical, and its relations join declared arguments: it is `Framework.Proper`.  With such a
framework no step of a reconciliation is refused.

The rows of steps are taken one after the other (`leads_removeArguments`,
`leads_removeRelations`, `leads_putArguments` and `leads_putRelations`), and each says which
graph its row leads to.  Together they give the graph that a reconciliation ends with
(`reconcile_eq`): the arguments and relations that stay, in their order, and behind them the
new ones in the order in which they are declared.
-/

namespace Argumentation

namespace Reconcile

open Argumentation.Graph

variable {place : Placement} {p q : Progress} {g : Graph} {ids : List String}

/-! ## Single steps -/

theorem Step.run_removeArgument (place : Placement) {id : String} {es : List Event}
    (h : p.graph.removeArgument id = .ok (g, es)) :
    Step.run place p (.removeArgument id) = .ok ⟨g, p.events ++ es, p.placed⟩ := by
  rw [Step.run, h]
  rfl

theorem Step.run_removeRelation (place : Placement) {id : RelationId} {e : Event}
    (h : p.graph.removeRelation id = .ok (g, e)) :
    Step.run place p (.removeRelation id) = .ok ⟨g, p.events ++ [e], p.placed⟩ := by
  rw [Step.run, h]
  rfl

theorem Step.run_putArgument_of_mem (place : Placement) {id : String} (w : Option Binary64)
    (h : canonicalId id ∈ p.graph.keys) :
    Step.run place p (.putArgument id w) = .ok ⟨(p.graph.setArgumentWeight id w).1,
      p.events ++ (p.graph.setArgumentWeight id w).2.toList, p.placed⟩ := by
  rw [Step.run, if_pos (contains_iff.2 h)]

theorem Step.run_putArgument_of_not_mem {id : String} (w : Option Binary64)
    (h : canonicalId id ∉ p.graph.keys) {e : Event}
    (hi : p.graph.insertArgument { id, weight := w, position := place p.placed.length id } =
      .ok (g, e)) :
    Step.run place p (.putArgument id w) = .ok ⟨g, p.events ++ [e], p.placed ++ [id]⟩ := by
  rw [Step.run, if_neg fun hc => h (contains_iff.1 hc)]
  simp only
  rw [hi]
  rfl

theorem Step.run_putRelation_of_some (place : Placement) {key : RelationKey}
    (w : Option Binary64) {id : RelationId}
    (h : p.graph.findRelation? key = some id) :
    Step.run place p (.putRelation key w) = .ok ⟨(p.graph.setRelationWeight id w).1,
      p.events ++ (p.graph.setRelationWeight id w).2.toList, p.placed⟩ := by
  rw [Step.run, h]

theorem Step.run_putRelation_of_none (place : Placement) {key : RelationKey}
    {w : Option Binary64} {id : RelationId}
    (h : p.graph.findRelation? key = none) (hi : p.graph.insertRelation key w = .ok (g, id)) :
    Step.run place p (.putRelation key w) =
      .ok ⟨g, p.events ++ [.relationAdded id], p.placed⟩ := by
  rw [Step.run, h]
  simp only
  rw [hi]
  rfl

/-! ## Rows of steps that are taken -/

/-- Steps that are all taken lead to a graph and place some arguments on the way. -/
def Leads (place : Placement) (p : Progress) (ss : List Step) (g : Graph)
    (ids : List String) : Prop :=
  ∃ es, run place p ss = (⟨g, es, p.placed ++ ids⟩, none)

theorem Leads.nil (place : Placement) (p : Progress) : Leads place p [] p.graph [] :=
  ⟨p.events, by rw [List.append_nil]; rfl⟩

theorem Leads.cons {s : Step} {ss : List Step} {id : List String} (hs : s.run place p = .ok q)
    (hplaced : q.placed = p.placed ++ id) (h : Leads place q ss g ids) :
    Leads place p (s :: ss) g (id ++ ids) := by
  obtain ⟨es, hes⟩ := h
  refine ⟨es, ?_⟩
  rw [run, hs]
  simp only
  rw [hes, hplaced, List.append_assoc]

/-! ## Arguments go -/

/-- The graph without some arguments and their relations. -/
def withoutAll (g : Graph) (gone : List String) : Graph :=
  { g with
    nodes := g.nodes.filter (·.key ∉ gone)
    relations := g.relations.filter fun r => r.source ∉ gone ∧ r.target ∉ gone }

theorem withoutAll_nil (g : Graph) : withoutAll g [] = g := by
  simp [withoutAll]

theorem withoutAll_cons (g : Graph) (id : String) (gone : List String) :
    withoutAll g (id :: gone) = withoutAll (g.without id) gone := by
  simp only [withoutAll, Graph.without, List.filter_filter, List.mem_cons, not_or]
  congr 1
  · exact List.filter_congr fun n _ => by simp [Bool.and_comm]
  · refine List.filter_congr fun r _ => ?_
    simp only [touches, Bool.decide_and, Bool.not_or, decide_not]
    cases decide (r.source = id) <;> cases decide (r.target = id) <;> simp

theorem leads_removeArguments (sound : p.graph.Sound) (hnodup : ids.Nodup)
    (hmem : ∀ id ∈ ids, id ∈ p.graph.keys) :
    Leads place p (ids.map .removeArgument) (withoutAll p.graph ids) [] := by
  induction ids generalizing p with
  | nil =>
    rw [withoutAll_nil]
    exact .nil place p
  | cons id ids ih =>
    have hid := hmem id List.mem_cons_self
    have hcanonical := sound.canonical_eq hid
    have hremove := removeArgument_of_mem (hcanonical.symm ▸ hid)
    rw [hcanonical] at hremove
    rw [List.nodup_cons] at hnodup
    have hstep := Step.run_removeArgument place hremove
    rw [List.map_cons, withoutAll_cons]
    refine Leads.cons hstep (List.append_nil _).symm (ih (sound.without id) hnodup.2 ?_)
    intro other hother
    rw [keys_without]
    refine List.mem_filter.2 ⟨hmem other (List.mem_cons_of_mem _ hother), ?_⟩
    have hne : other ≠ id := fun heq => hnodup.1 (heq ▸ hother)
    simpa using hne

/-! ## Relations go -/

theorem leads_removeRelations {ids : List RelationId} (hnodup : ids.Nodup)
    (hmem : ∀ id ∈ ids, id ∈ p.graph.relationIds) :
    Leads place p (ids.map .removeRelation)
      { p.graph with relations := p.graph.relations.filter (·.id ∉ ids) } [] := by
  induction ids generalizing p with
  | nil =>
    have hall : p.graph.relations.filter (·.id ∉ []) = p.graph.relations := by simp
    rw [hall]
    exact .nil place p
  | cons id ids ih =>
    rw [List.nodup_cons] at hnodup
    cases hr : p.graph.relation? id with
    | none =>
      obtain ⟨r, hrmem, hrid⟩ := List.mem_map.1 (hmem id List.mem_cons_self)
      exact absurd hrid (relation?_eq_none_iff.1 hr r hrmem)
    | some r =>
      have hstep := Step.run_removeRelation place (removeRelation_of_some hr)
      have hfilter : p.graph.relations.filter (·.id ∉ id :: ids) =
          (p.graph.relations.filter (·.id ≠ id)).filter (·.id ∉ ids) := by
        rw [List.filter_filter]
        exact List.filter_congr fun r _ => by simp [Bool.and_comm]
      rw [List.map_cons, hfilter]
      refine Leads.cons hstep (List.append_nil _).symm (ih hnodup.2 ?_)
      intro other hother
      obtain ⟨q, hq, hqid⟩ := List.mem_map.1 (hmem other (List.mem_cons_of_mem _ hother))
      have hne : q.id ≠ id := fun heq => hnodup.1 (by rwa [← heq, hqid])
      exact List.mem_map.2 ⟨q, List.mem_filter.2 ⟨hq, by simpa using hne⟩, hqid⟩

/-! ## Arguments are put -/

/-- An argument that is there already, with the weight that some entries give it. -/
def putNode (entries : Assoc String (Option Binary64)) (n : Node) : Node :=
  match entries.get? n.key with
  | none => n
  | some w => weighNode w n

/-- A new argument. -/
def newNode (position : Position) (e : String × Option Binary64) : Node :=
  ⟨e.1, { id := e.1, weight := e.2, position }⟩

theorem putNode_of_not_mem {entries : Assoc String (Option Binary64)} {n : Node}
    (h : n.key ∉ entries.keys) : putNode entries n = n := by
  rw [putNode, Assoc.get?_eq_none_iff.2 h]

theorem key_putNode (entries : Assoc String (Option Binary64)) (n : Node) :
    (putNode entries n).key = n.key := by
  unfold putNode
  cases entries.get? n.key with
  | none => rfl
  | some w => rfl

theorem id_putNode (entries : Assoc String (Option Binary64)) (n : Node) :
    (putNode entries n).argument.id = n.argument.id := by
  unfold putNode
  cases entries.get? n.key with
  | none => rfl
  | some w => rfl

theorem putNode_cons {e : String × Option Binary64} {entries : Assoc String (Option Binary64)}
    (h : e.1 ∉ entries.keys) (n : Node) :
    putNode (e :: entries) n = putNode entries (if n.key = e.1 then weighNode e.2 n else n) := by
  by_cases hk : n.key = e.1
  · have hkey : (weighNode e.2 n).key = e.1 := hk
    have hstay := putNode_of_not_mem (n := weighNode e.2 n) (by rwa [hkey])
    rw [if_pos hk, hstay, putNode, Assoc.get?_cons, if_pos hk.symm]
  · rw [if_neg hk, putNode, Assoc.get?_cons, if_neg (Ne.symm hk), putNode]

theorem insertArgument_newNode {e : String × Option Binary64} (hid : IsCanonical e.1)
    (h : e.1 ∉ g.keys) (position : Position) :
    g.insertArgument { id := e.1, weight := e.2, position } =
      .ok ({ g with nodes := g.nodes ++ [newNode position e] }, .argumentAdded e.1) := by
  have hinsert := insertArgument_of_not_mem (g := g)
    (a := { id := e.1, weight := e.2, position }) (by rwa [hid])
  rwa [hid] at hinsert

/-- Entries of new keys are told apart by the keys that are there already only. -/
theorem filter_not_mem_concat {κ β : Type} [DecidableEq κ] {keys : List κ} {k : κ}
    {entries : Assoc κ β} (h : k ∉ entries.keys) :
    entries.filter (·.1 ∉ keys ++ [k]) = entries.filter (·.1 ∉ keys) := by
  refine List.filter_congr fun e he => ?_
  have hne : e.1 ≠ k := fun heq => h (heq ▸ List.mem_map_of_mem he)
  simp [hne]

/-- The graph in which the weight of an argument is settled. -/
def weighArgument (g : Graph) (id : String) (w : Option Binary64) : Graph :=
  { g with nodes := g.nodes.map fun n => if n.key = id then weighNode w n else n }

theorem keys_weighArgument (g : Graph) (id : String) (w : Option Binary64) :
    (weighArgument g id w).keys = g.keys := by
  rw [keys, keys, weighArgument, List.map_map]
  refine List.map_congr_left fun n _ => ?_
  rw [Function.comp_apply]
  split <;> rfl

/-- The graph with some arguments put.  Those that are there keep their place, and the new ones
come behind them, placed after a number of others. -/
def withArguments (place : Placement) (before : Nat) (g : Graph)
    (entries : Assoc String (Option Binary64)) : Graph :=
  { g with
    nodes := g.nodes.map (putNode entries) ++
      (entries.filter (·.1 ∉ g.keys)).mapIdx fun i e => newNode (place (before + i) e.1) e }

section WithArguments

variable {e : String × Option Binary64} {entries : Assoc String (Option Binary64)} {before : Nat}

theorem withArguments_nil (place : Placement) (before : Nat) (g : Graph) :
    withArguments place before g [] = g := by
  have hall : g.nodes.map (putNode []) = g.nodes :=
    (List.map_congr_left fun n _ => rfl).trans (List.map_id _)
  rw [withArguments, hall, List.filter_nil, List.mapIdx_nil, List.append_nil]

/-- The weight of an argument that is there is settled. -/
theorem withArguments_cons_of_mem (hnot : e.1 ∉ entries.keys) (hmem : e.1 ∈ g.keys) :
    withArguments place before g (e :: entries) =
      withArguments place before (weighArgument g e.1 e.2) entries := by
  have hput : putNode (e :: entries) =
      putNode entries ∘ fun n => if n.key = e.1 then weighNode e.2 n else n :=
    funext (putNode_cons hnot)
  rw [withArguments, withArguments, keys_weighArgument, weighArgument, List.map_map, ← hput,
    List.filter_cons, if_neg (by simp [hmem])]

/-- A new argument goes to the end, and no later entry gives it a weight. -/
theorem withArguments_cons_of_not_mem (hnot : e.1 ∉ entries.keys) (hmem : e.1 ∉ g.keys) :
    withArguments place before g (e :: entries) =
      withArguments place (before + 1)
        { g with nodes := g.nodes ++ [newNode (place before e.1) e] } entries := by
  have hkeys : Graph.keys { g with nodes := g.nodes ++ [newNode (place before e.1) e] } =
      g.keys ++ [e.1] := keys_append_node g _
  have hnodes : g.nodes.map (putNode (e :: entries)) = g.nodes.map (putNode entries) := by
    refine List.map_congr_left fun n hn => ?_
    have hne : n.key ≠ e.1 := fun hk => hmem (hk ▸ List.mem_map_of_mem hn)
    rw [putNode_cons hnot, if_neg hne]
  have hstay : putNode entries (newNode (place before e.1) e) = newNode (place before e.1) e :=
    putNode_of_not_mem hnot
  have hlater (i : Nat) : before + 1 + i = before + (i + 1) := by omega
  rw [withArguments, withArguments, hkeys, filter_not_mem_concat hnot, hnodes, List.map_append,
    List.map_singleton, hstay, List.filter_cons, if_pos (by simp [hmem]), List.mapIdx_cons,
    List.append_assoc, List.singleton_append]
  simp only [hlater]
  rfl

end WithArguments

theorem leads_putArguments (entries : Assoc String (Option Binary64))
    (hnodup : entries.keys.Nodup) (hcanonical : ∀ id ∈ entries.keys, IsCanonical id)
    (sound : p.graph.Sound) :
    Leads place p (entries.map fun e => .putArgument e.1 e.2)
      (withArguments place p.placed.length p.graph entries)
      (Assoc.keys (entries.filter (·.1 ∉ p.graph.keys))) := by
  induction entries generalizing p with
  | nil =>
    rw [withArguments_nil]
    exact .nil place p
  | cons e entries ih =>
    rw [Assoc.keys_cons, List.nodup_cons] at hnodup
    have hid : IsCanonical e.1 := hcanonical e.1 List.mem_cons_self
    have hrest : ∀ id ∈ Assoc.keys entries, IsCanonical id :=
      fun id h => hcanonical id (List.mem_cons_of_mem _ h)
    rw [List.map_cons, List.filter_cons]
    by_cases hmem : e.1 ∈ p.graph.keys
    · have hstep := Step.run_putArgument_of_mem place e.2 (hid.symm ▸ hmem)
      have hsound := (sound.of_skeleton (skeleton_setArgumentWeight p.graph e.1 e.2)).1
      rw [sound.setArgumentWeight_eq hid] at hstep hsound
      rw [withArguments_cons_of_mem hnodup.1 hmem, if_neg (by simp [hmem]),
        ← keys_weighArgument p.graph e.1 e.2]
      exact Leads.cons hstep (List.append_nil _).symm (ih hnodup.2 hrest hsound)
    · have hnew := insertArgument_newNode hid hmem (place p.placed.length e.1)
      have hstep := Step.run_putArgument_of_not_mem e.2 (by rwa [hid]) hnew
      have hkeys : Graph.keys { p.graph with
          nodes := p.graph.nodes ++ [newNode (place p.placed.length e.1) e] } =
          p.graph.keys ++ [e.1] := keys_append_node p.graph _
      have hplaced : (p.placed ++ [e.1]).length = p.placed.length + 1 := List.length_append
      rw [withArguments_cons_of_not_mem hnodup.1 hmem, if_pos (by simp [hmem]), ← hplaced,
        ← filter_not_mem_concat hnodup.1, ← hkeys]
      exact Leads.cons hstep rfl (ih hnodup.2 hrest (sound.of_insertArgument hnew).1)

/-! ## Relations are put -/

/-- A relation that is there already, with the weight that some entries give it. -/
def putLink (entries : Assoc RelationKey (Option Binary64)) (r : Relation) : Relation :=
  match entries.get? r.key with
  | none => r
  | some w => weighRelation w r

/-- A new relation. -/
def newLink (number : UInt64) (e : RelationKey × Option Binary64) : Relation :=
  ⟨⟨number⟩, e.1.source, e.1.target, e.1.kind, e.2⟩

theorem putLink_of_not_mem {entries : Assoc RelationKey (Option Binary64)} {r : Relation}
    (h : r.key ∉ entries.keys) : putLink entries r = r := by
  rw [putLink, Assoc.get?_eq_none_iff.2 h]

theorem key_putLink (entries : Assoc RelationKey (Option Binary64)) (r : Relation) :
    (putLink entries r).key = r.key := by
  unfold putLink
  cases entries.get? r.key with
  | none => rfl
  | some w => rfl

theorem id_putLink (entries : Assoc RelationKey (Option Binary64)) (r : Relation) :
    (putLink entries r).id = r.id := by
  unfold putLink
  cases entries.get? r.key with
  | none => rfl
  | some w => rfl

theorem putLink_cons {e : RelationKey × Option Binary64}
    {entries : Assoc RelationKey (Option Binary64)} (h : e.1 ∉ entries.keys) (r : Relation) :
    putLink (e :: entries) r =
      putLink entries (if r.key = e.1 then weighRelation e.2 r else r) := by
  by_cases hk : r.key = e.1
  · have hkey : (weighRelation e.2 r).key = e.1 := hk
    have hstay := putLink_of_not_mem (r := weighRelation e.2 r) (by rwa [hkey])
    rw [if_pos hk, hstay, putLink, Assoc.get?_cons, if_pos hk.symm]
  · rw [if_neg hk, putLink, Assoc.get?_cons, if_neg (Ne.symm hk), putLink]

/-- The graph in which the weight of the relation that says this is settled. -/
def weighKey (g : Graph) (key : RelationKey) (w : Option Binary64) : Graph :=
  { g with relations := g.relations.map fun r => if r.key = key then weighRelation w r else r }

theorem relationKeys_weighKey (g : Graph) (key : RelationKey) (w : Option Binary64) :
    (weighKey g key w).relationKeys = g.relationKeys := by
  rw [relationKeys, relationKeys, weighKey, List.map_map]
  refine List.map_congr_left fun r _ => ?_
  rw [Function.comp_apply]
  split <;> rfl

theorem setRelationWeight_of_find (sound : g.Sound) {key : RelationKey} {id : RelationId}
    (h : g.findRelation? key = some id) (w : Option Binary64) :
    (g.setRelationWeight id w).1 = weighKey g key w := by
  obtain ⟨r, hr, hrkey, hrid⟩ := exists_of_findRelation? h
  have hmap : (g.relations.map fun q => if q.id = id then weighRelation w q else q) =
      g.relations.map fun q => if q.key = key then weighRelation w q else q := by
    refine List.map_congr_left fun q hq => ?_
    have hiff : q.id = id ↔ q.key = key := by
      constructor
      · intro hid
        rw [sound.eq_of_id_eq hq hr (hid.trans hrid.symm), hrkey]
      · intro hkey
        rw [sound.eq_of_key_eq hq hr (hkey.trans hrkey.symm), hrid]
    simp only [hiff]
  rw [sound.setRelationWeight_eq, hmap]
  rfl

theorem add_ofNat_zero (n : UInt64) : n + UInt64.ofNat 0 = n := UInt64.add_zero n

theorem add_ofNat_succ (n : UInt64) (i : Nat) :
    n + UInt64.ofNat (i + 1) = n + 1 + UInt64.ofNat i := by
  rw [UInt64.ofNat_add, UInt64.ofNat_one, UInt64.add_assoc, UInt64.add_comm 1]

theorem insertRelation_withRelation (sound : g.Sound) {e : RelationKey × Option Binary64}
    (hs : e.1.source ∈ g.keys) (ht : e.1.target ∈ g.keys) (h : e.1 ∉ g.relationKeys) :
    g.insertRelation e.1 e.2 = .ok (g.withRelation e.1 e.2, g.counter.generate.1) := by
  have hkey : canonicalKey e.1 = e.1 := by
    rw [canonicalKey, sound.canonical_eq hs, sound.canonical_eq ht]
  have hinsert := insertRelation_of_not_mem (w := e.2) (by rwa [sound.canonical_eq hs])
    (by rwa [sound.canonical_eq ht]) (by rwa [hkey])
  rwa [hkey] at hinsert

/-- The graph with some relations put.  Those that are there keep their place, and the new ones
come behind them with the numbers that the counter has next. -/
def withRelations (g : Graph) (entries : Assoc RelationKey (Option Binary64)) : Graph :=
  { g with
    relations := g.relations.map (putLink entries) ++
      (entries.filter (·.1 ∉ g.relationKeys)).mapIdx fun i e =>
        newLink (g.counter.next + UInt64.ofNat i) e
    counter := ⟨g.counter.next +
      UInt64.ofNat (entries.filter (·.1 ∉ g.relationKeys)).length⟩ }

section WithRelations

variable {e : RelationKey × Option Binary64} {entries : Assoc RelationKey (Option Binary64)}

theorem withRelations_nil (g : Graph) : withRelations g [] = g := by
  have hall : g.relations.map (putLink []) = g.relations :=
    (List.map_congr_left fun r _ => rfl).trans (List.map_id _)
  rw [withRelations, hall, List.filter_nil, List.mapIdx_nil, List.append_nil, List.length_nil,
    add_ofNat_zero]

/-- The weight of a relation that is there is settled. -/
theorem withRelations_cons_of_mem (hnot : e.1 ∉ entries.keys) (hmem : e.1 ∈ g.relationKeys) :
    withRelations g (e :: entries) = withRelations (weighKey g e.1 e.2) entries := by
  have hput : putLink (e :: entries) =
      putLink entries ∘ fun r => if r.key = e.1 then weighRelation e.2 r else r :=
    funext (putLink_cons hnot)
  rw [withRelations, withRelations, relationKeys_weighKey, weighKey, List.map_map, ← hput,
    List.filter_cons, if_neg (by simp [hmem])]

/-- A new relation gets the next number, and no later entry gives it a weight. -/
theorem withRelations_cons_of_not_mem (hnot : e.1 ∉ entries.keys)
    (hmem : e.1 ∉ g.relationKeys) :
    withRelations g (e :: entries) = withRelations (g.withRelation e.1 e.2) entries := by
  have hold : g.relations.map (putLink (e :: entries)) = g.relations.map (putLink entries) := by
    refine List.map_congr_left fun r hr => ?_
    have hne : r.key ≠ e.1 := fun hk => hmem (hk ▸ List.mem_map_of_mem hr)
    rw [putLink_cons hnot, if_neg hne]
  have hstay : putLink entries (newLink g.counter.next e) = newLink g.counter.next e :=
    putLink_of_not_mem hnot
  have hlinks : (g.withRelation e.1 e.2).relations.map (putLink entries) =
      g.relations.map (putLink (e :: entries)) ++ [newLink g.counter.next e] := by
    rw [hold, ← hstay]
    exact List.map_append
  have hnumber : (g.withRelation e.1 e.2).counter.next = g.counter.next + 1 := rfl
  rw [withRelations, withRelations, relationKeys_withRelation, filter_not_mem_concat hnot,
    hlinks, hnumber, List.filter_cons, if_pos (by simp [hmem]), List.mapIdx_cons, add_ofNat_zero,
    List.length_cons, List.append_assoc, List.singleton_append]
  simp only [add_ofNat_succ]
  rfl

end WithRelations

/-- Putting a relation keeps a graph sound while there is a number for it. -/
theorem sound_of_putRelation {key : RelationKey} {w : Option Binary64} {ss : List Step} {n : Nat}
    (hs : Step.run place p (.putRelation key w) = .ok q) (sound : p.graph.Sound)
    (hnext : p.graph.counter.next.toNat ≤ n + relationsAdded p.events)
    (room : n + relationsAdded (run place p (.putRelation key w :: ss)).1.events ≤ lastNumber) :
    q.graph.Sound ∧ q.graph.counter.next.toNat ≤ n + relationsAdded q.events ∧
      n + relationsAdded (run place q ss).1.events ≤ lastNumber := by
  rw [run, hs] at room
  simp only at room
  obtain ⟨ds, -, hds⟩ := changes_run place q ss
  have hrest := relationsAdded_append q.events ds
  rw [← hds] at hrest
  have hcount : n + relationsAdded q.events ≤ lastNumber := by omega
  cases Step.done_of_run hs with
  | @weighRelation _ _ id hold =>
    obtain ⟨hsound, hcounter⟩ := sound.of_skeleton (skeleton_setRelationWeight p.graph id w)
    have hmore := relationsAdded_append p.events (p.graph.setRelationWeight id w).2.toList
    exact ⟨hsound, by rw [hcounter, hmore]; omega, room⟩
  | @insertRelation _ _ g id hnew hinsert =>
    have hone : relationsAdded (p.events ++ [.relationAdded id]) = relationsAdded p.events + 1 :=
      relationsAdded_append p.events [.relationAdded id]
    simp only [hone] at hcount
    obtain ⟨hsound, hcounter⟩ := sound.of_insertRelation hinsert (by omega)
    exact ⟨hsound, by rw [hcounter, hone]; omega, room⟩

theorem leads_putRelations (entries : Assoc RelationKey (Option Binary64))
    (hnodup : entries.keys.Nodup)
    (hjoined : ∀ key ∈ entries.keys, key.source ∈ p.graph.keys ∧ key.target ∈ p.graph.keys)
    (sound : p.graph.Sound) {n : Nat}
    (hnext : p.graph.counter.next.toNat ≤ n + relationsAdded p.events)
    (room : n + relationsAdded (run place p (entries.map fun e => .putRelation e.1 e.2)).1.events ≤
      lastNumber) :
    Leads place p (entries.map fun e => .putRelation e.1 e.2) (withRelations p.graph entries)
      [] := by
  induction entries generalizing p with
  | nil =>
    rw [withRelations_nil]
    exact .nil place p
  | cons e entries ih =>
    rw [Assoc.keys_cons, List.nodup_cons] at hnodup
    obtain ⟨hs, ht⟩ := hjoined e.1 List.mem_cons_self
    have hrest (key : RelationKey) (h : key ∈ Assoc.keys entries) :=
      hjoined key (List.mem_cons_of_mem _ h)
    rw [List.map_cons] at room ⊢
    cases hf : p.graph.findRelation? e.1 with
    | some id =>
      have hmem : e.1 ∈ p.graph.relationKeys :=
        isSome_findRelation?_iff.1 (Option.isSome_iff_exists.2 ⟨id, hf⟩)
      have hstep := Step.run_putRelation_of_some place e.2 hf
      obtain ⟨hsound, hcounter, hroom⟩ := sound_of_putRelation hstep sound hnext room
      rw [setRelationWeight_of_find sound hf] at hstep hsound hcounter hroom
      rw [withRelations_cons_of_mem hnodup.1 hmem]
      exact Leads.cons hstep (List.append_nil _).symm (ih hnodup.2 hrest hsound hcounter hroom)
    | none =>
      have hmem := findRelation?_eq_none_iff.1 hf
      have hstep := Step.run_putRelation_of_none place hf
        (insertRelation_withRelation sound hs ht hmem)
      obtain ⟨hsound, hcounter, hroom⟩ := sound_of_putRelation hstep sound hnext room
      rw [withRelations_cons_of_not_mem hnodup.1 hmem]
      exact Leads.cons hstep (List.append_nil _).symm (ih hnodup.2 hrest hsound hcounter hroom)

/-! ## The target -/

/-- The arguments and relations that a framework declares too. -/
def kept (g : Graph) (f : Framework) : Graph :=
  { g with
    nodes := g.nodes.filter (f.containsArgument ·.key)
    relations := g.relations.filter (f.containsRelation ·.key) }

/-- The arguments that a framework declares and the graph does not have. -/
def newArguments (g : Graph) (f : Framework) : Assoc String (Option Binary64) :=
  f.arguments.filter (·.1 ∉ g.keys)

/-- The relations that a framework declares and the graph does not have. -/
def newRelations (g : Graph) (f : Framework) : Assoc RelationKey (Option Binary64) :=
  f.relations.filter (·.1 ∉ g.relationKeys)

/-- The graph that a reconciliation ends with: what stays, with its weights settled, and
behind it what is new. -/
def target (g : Graph) (f : Framework) (place : Placement) : Graph where
  nodes := (kept g f).nodes.map (putNode f.arguments) ++
    (newArguments g f).mapIdx fun i e => newNode (place i e.1) e
  relations := (kept g f).relations.map (putLink f.relations) ++
    (newRelations g f).mapIdx fun i e => newLink (g.counter.next + UInt64.ofNat i) e
  counter := ⟨g.counter.next + UInt64.ofNat (newRelations g f).length⟩

theorem runRows_cons {row : Graph → List Step} (rs : List (Graph → List Step))
    (h : Leads place p (row p.graph) g ids) :
    ∃ es, runRows place p (row :: rs) = runRows place ⟨g, es, p.placed ++ ids⟩ rs := by
  obtain ⟨es, hes⟩ := h
  exact ⟨es, by simp only [runRows, hes]⟩

theorem runRows_singleton (row : Graph → List Step) :
    runRows place p [row] = run place p (row p.graph) := by
  rw [runRows]
  cases run place p (row p.graph) with
  | mk q e => cases e <;> rfl

/-- The graph without the arguments that are not declared. -/
def afterDrop (g : Graph) (f : Framework) : Graph :=
  { g with
    nodes := g.nodes.filter (f.containsArgument ·.key)
    relations := g.relations.filter fun r =>
      f.containsArgument r.source ∧ f.containsArgument r.target }

section Target

variable {f : Framework}

theorem undeclaredEnd?_eq_none (proper : f.Proper) : undeclaredEnd? f = none := by
  rw [undeclaredEnd?, List.findSome?_eq_none_iff]
  intro e he
  obtain ⟨hs, ht⟩ := proper.joined e.1 (List.mem_map_of_mem he)
  rw [Framework.containsArgument_iff.2 hs, Framework.containsArgument_iff.2 ht]
  rfl

theorem leads_dropArguments (sound : p.graph.Sound) (f : Framework) :
    Leads place p (dropArguments f p.graph) (afterDrop p.graph f) [] := by
  have hgone {k : String} (hk : k ∈ p.graph.keys) :
      k ∉ p.graph.keys.filter (!f.containsArgument ·) ↔ f.containsArgument k = true := by
    simp [List.mem_filter, hk]
  have hnodes : (p.graph.nodes.filter fun n =>
      n.key ∉ p.graph.keys.filter (!f.containsArgument ·)) =
      p.graph.nodes.filter (f.containsArgument ·.key) := by
    refine List.filter_congr fun n hn => ?_
    rw [Bool.eq_iff_iff, decide_eq_true_iff]
    exact hgone (List.mem_map_of_mem hn)
  have hrelations : (p.graph.relations.filter fun r =>
      r.source ∉ p.graph.keys.filter (!f.containsArgument ·) ∧
        r.target ∉ p.graph.keys.filter (!f.containsArgument ·)) =
      p.graph.relations.filter fun r =>
        f.containsArgument r.source ∧ f.containsArgument r.target := by
    refine List.filter_congr fun r hr => ?_
    obtain ⟨hs, ht⟩ := sound.joined r hr
    rw [decide_eq_decide.2 (and_congr (hgone hs) (hgone ht))]
  have hleads : Leads place p _ _ [] := leads_removeArguments sound
    (sound.nodup_keys.sublist (List.filter_sublist (p := (!f.containsArgument ·))))
    fun id h => List.mem_of_mem_filter h
  rw [withoutAll, hnodes, hrelations] at hleads
  rw [dropArguments, sound.map_id_arguments]
  exact hleads

theorem leads_dropRelations (sound : p.graph.Sound) (f : Framework) :
    Leads place p (dropRelations f p.graph)
      { p.graph with relations := p.graph.relations.filter (f.containsRelation ·.key) } [] := by
  have hsub := List.filter_sublist (p := fun r : Relation => !f.containsRelation r.key)
    (l := p.graph.relations)
  have hrelations : (p.graph.relations.filter fun r =>
      r.id ∉ (p.graph.relations.filter fun r => !f.containsRelation r.key).map (·.id)) =
      p.graph.relations.filter (f.containsRelation ·.key) := by
    refine List.filter_congr fun r hr => ?_
    have hgone : r.id ∉ (p.graph.relations.filter fun r => !f.containsRelation r.key).map (·.id) ↔
        f.containsRelation r.key = true := by
      constructor
      · intro hid
        cases hc : f.containsRelation r.key with
        | true => rfl
        | false =>
          exact absurd (List.mem_map_of_mem (List.mem_filter.2 ⟨hr, by rw [hc]; rfl⟩)) hid
      · intro hc hid
        obtain ⟨q, hq, hqid⟩ := List.mem_map.1 hid
        obtain ⟨hqmem, hqc⟩ := List.mem_filter.1 hq
        rw [sound.eq_of_id_eq hqmem hr hqid, hc] at hqc
        cases hqc
    rw [Bool.eq_iff_iff, decide_eq_true_iff]
    exact hgone
  have hleads : Leads place p _ _ [] := leads_removeRelations
    (sound.nodup_ids.sublist (hsub.map _)) fun id h => (hsub.map _).subset h
  rw [hrelations, List.map_map] at hleads
  exact hleads

/-- A relation that is declared is not lost with an argument that is not. -/
theorem filter_afterDrop (g : Graph) (proper : f.Proper) :
    (afterDrop g f).relations.filter (f.containsRelation ·.key) = (kept g f).relations := by
  rw [afterDrop, List.filter_filter]
  refine List.filter_congr fun r _ => ?_
  cases hc : f.containsRelation r.key with
  | false => rfl
  | true =>
    obtain ⟨hs, ht⟩ := proper.joined r.key (Framework.containsRelation_iff.1 hc)
    rw [Bool.true_and, decide_eq_true_iff]
    exact ⟨Framework.containsArgument_iff.2 hs, Framework.containsArgument_iff.2 ht⟩

theorem sound_afterDrop {g : Graph} (sound : g.Sound) (f : Framework) :
    (afterDrop g f).Sound :=
  sound.filter f.containsArgument
    (fun r => f.containsArgument r.source ∧ f.containsArgument r.target)
    fun _ _ h => of_decide_eq_true h

theorem sound_kept {g : Graph} (sound : g.Sound) (proper : f.Proper) : (kept g f).Sound := by
  refine sound.filter f.containsArgument (f.containsRelation ·.key) fun r _ h => ?_
  obtain ⟨hs, ht⟩ := proper.joined r.key (Framework.containsRelation_iff.1 h)
  exact ⟨Framework.containsArgument_iff.2 hs, Framework.containsArgument_iff.2 ht⟩

theorem keys_kept (g : Graph) (f : Framework) :
    (kept g f).keys = g.keys.filter f.containsArgument := by
  rw [keys, kept, keys, List.filter_map]
  rfl

theorem relationKeys_kept (g : Graph) (f : Framework) :
    (kept g f).relationKeys = g.relationKeys.filter f.containsRelation := by
  rw [relationKeys, kept, relationKeys, List.filter_map]
  rfl

/-- What is new is new for the arguments that stay as well. -/
theorem filter_keys_kept (g : Graph) (f : Framework) :
    f.arguments.filter (·.1 ∉ (kept g f).keys) = newArguments g f := by
  refine List.filter_congr fun e he => ?_
  have hmem : f.containsArgument e.1 = true :=
    Framework.containsArgument_iff.2 (List.mem_map_of_mem he)
  simp [keys_kept, hmem]

theorem filter_relationKeys_kept (g : Graph) (f : Framework) :
    f.relations.filter (·.1 ∉ (kept g f).relationKeys) = newRelations g f := by
  refine List.filter_congr fun e he => ?_
  have hmem : f.containsRelation e.1 = true :=
    Framework.containsRelation_iff.2 (List.mem_map_of_mem he)
  simp [relationKeys_kept, hmem]

/-- The graph after the arguments are put. -/
def afterPut (g : Graph) (f : Framework) (place : Placement) : Graph :=
  { kept g f with
    nodes := (kept g f).nodes.map (putNode f.arguments) ++
      (newArguments g f).mapIdx fun i e => newNode (place i e.1) e }

theorem withArguments_kept (g : Graph) (f : Framework) (place : Placement) :
    withArguments place 0 (kept g f) f.arguments = afterPut g f place := by
  rw [withArguments, filter_keys_kept, afterPut]
  simp only [Nat.zero_add]

theorem leads_putArguments_kept {g : Graph} (sound : g.Sound) (proper : f.Proper)
    (hp : p.graph = kept g f) (hplaced : p.placed = []) :
    Leads place p (putArguments f p.graph) (afterPut g f place) ((newArguments g f).map (·.1)) := by
  have hleads : Leads place p _ _ _ := leads_putArguments f.arguments proper.arguments
    proper.canonical (hp ▸ sound_kept sound proper)
  rwa [hp, filter_keys_kept, hplaced, List.length_nil, withArguments_kept] at hleads

theorem map_mapIdx {α β γ : Type} (l : List α) (f : Nat → α → β) (h : β → γ) :
    (l.mapIdx f).map h = l.mapIdx fun i a => h (f i a) := by
  rw [List.mapIdx_eq_zipIdx_map, List.mapIdx_eq_zipIdx_map, List.map_map]
  rfl

/-- What does not hang on the place of an entry is read off the entry. -/
theorem map_mapIdx_of_eq {α β γ : Type} {l : List α} {f : Nat → α → β} {h : β → γ} {k : α → γ}
    (heq : ∀ i a, h (f i a) = k a) : (l.mapIdx f).map h = l.map k := by
  induction l generalizing f with
  | nil => rfl
  | cons a l ih => rw [List.mapIdx_cons, List.map_cons, List.map_cons, heq, ih fun i => heq (i + 1)]

theorem keys_afterPut (g : Graph) (f : Framework) (place : Placement) :
    (afterPut g f place).keys = (kept g f).keys ++ (newArguments g f).map (·.1) := by
  have hkept : ((kept g f).nodes.map (putNode f.arguments)).map (·.key) = (kept g f).keys := by
    rw [keys, List.map_map]
    exact List.map_congr_left fun n _ => key_putNode f.arguments n
  have hnew : ((newArguments g f).mapIdx fun i e => newNode (place i e.1) e).map (·.key) =
      (newArguments g f).map (·.1) := map_mapIdx_of_eq fun _ _ => rfl
  rw [keys, afterPut, List.map_append, hkept, hnew]

theorem sound_afterPut {g : Graph} (sound : g.Sound) (proper : f.Proper) (place : Placement) :
    (afterPut g f place).Sound := by
  have hkept := sound_kept sound proper
  have hnew (id : String) (hid : id ∈ (newArguments g f).map (·.1)) :
      id ∈ f.arguments.keys ∧ id ∉ g.keys := by
    obtain ⟨e, he, rfl⟩ := List.mem_map.1 hid
    obtain ⟨hmem, hnot⟩ := List.mem_filter.1 he
    exact ⟨List.mem_map_of_mem hmem, of_decide_eq_true hnot⟩
  refine ⟨?_, ?_, ?_, ?_, hkept.nodup_relationKeys, hkept.increasing, hkept.below⟩
  · intro n hn
    cases List.mem_append.1 hn with
    | inl hold =>
      obtain ⟨m, hm, rfl⟩ := List.mem_map.1 hold
      rw [id_putNode, key_putNode, hkept.keyed m hm]
    | inr hnew =>
      obtain ⟨i, hi, rfl⟩ := List.exists_of_mem_mapIdx hnew
      rfl
  · intro k hk
    rw [keys_afterPut] at hk
    cases List.mem_append.1 hk with
    | inl hold => exact hkept.canonical k hold
    | inr hid => exact proper.canonical k (hnew k hid).1
  · rw [keys_afterPut]
    refine List.nodup_append.2 ⟨hkept.nodup_keys, ?_, ?_⟩
    · exact proper.arguments.sublist (List.filter_sublist.map _)
    · intro k hk l hl heq
      rw [keys_kept] at hk
      exact (hnew l hl).2 (heq ▸ List.mem_of_mem_filter hk)
  · intro r hr
    rw [keys_afterPut]
    obtain ⟨hs, ht⟩ := hkept.joined r hr
    exact ⟨List.mem_append_left _ hs, List.mem_append_left _ ht⟩

theorem mem_keys_afterPut {g : Graph} {id : String} (h : id ∈ f.arguments.keys) :
    id ∈ (afterPut g f place).keys := by
  rw [keys_afterPut, keys_kept]
  by_cases hmem : id ∈ g.keys
  · exact List.mem_append_left _
      (List.mem_filter.2 ⟨hmem, Framework.containsArgument_iff.2 h⟩)
  · obtain ⟨e, he, rfl⟩ := List.mem_map.1 h
    exact List.mem_append_right _ (List.mem_map_of_mem
      (List.mem_filter.2 ⟨he, decide_eq_true hmem⟩))

/-- The first three rows are taken as a whole and lead to `afterPut`. -/
theorem exists_runRows_eq {g : Graph} (sound : g.Sound) (proper : f.Proper) (place : Placement) :
    ∃ es, runRows place { graph := g } (rows f) =
      run place ⟨afterPut g f place, es, (newArguments g f).map (·.1)⟩
        (f.relations.map fun e => .putRelation e.1 e.2) := by
  have hfirst : Leads place { graph := g } _ _ [] := leads_dropArguments sound f
  obtain ⟨es, hes⟩ := runRows_cons [dropRelations f, putArguments f, putRelations f] hfirst
  have hdrop : Leads place ⟨afterDrop g f, es, []⟩ _ _ [] :=
    leads_dropRelations (sound_afterDrop sound f) f
  rw [filter_afterDrop g proper] at hdrop
  obtain ⟨es', hes'⟩ := runRows_cons [putArguments f, putRelations f] hdrop
  have hput : Leads place ⟨kept g f, es', []⟩ _ _ _ :=
    leads_putArguments_kept sound proper rfl rfl
  obtain ⟨es'', hes''⟩ := runRows_cons [putRelations f] hput
  exact ⟨es'', hes.trans (hes'.trans (hes''.trans (runRows_singleton _)))⟩

/-- Relations between arguments that are there are put without refusal, even if the counter
runs over. -/
theorem run_putRelations (place : Placement)
    (entries : Assoc RelationKey (Option Binary64))
    (hends : ∀ key ∈ entries.keys, canonicalId key.source ∈ p.graph.keys ∧
      canonicalId key.target ∈ p.graph.keys ∧ canonicalKey key = key) :
    (run place p (entries.map fun e => .putRelation e.1 e.2)).2 = none := by
  induction entries generalizing p with
  | nil => rfl
  | cons e entries ih =>
    obtain ⟨hs, ht, hkey⟩ := hends e.1 List.mem_cons_self
    have hrest (key : RelationKey) (h : key ∈ Assoc.keys entries) :=
      hends key (List.mem_cons_of_mem _ h)
    rw [List.map_cons]
    cases hf : p.graph.findRelation? e.1 with
    | some id =>
      have hkeys : (p.graph.setRelationWeight id e.2).1.keys = p.graph.keys := by
        have hskeleton := congrArg keys (skeleton_setRelationWeight p.graph id e.2)
        rwa [keys_skeleton, keys_skeleton] at hskeleton
      rw [run, Step.run_putRelation_of_some place e.2 hf]
      refine ih fun key h => ?_
      rw [hkeys]
      exact hrest key h
    | none =>
      have hnew : canonicalKey e.1 ∉ p.graph.relationKeys := by
        rw [hkey]
        exact findRelation?_eq_none_iff.1 hf
      rw [run, Step.run_putRelation_of_none place hf (insertRelation_of_not_mem hs ht hnew)]
      exact ih fun key h => hrest key h

/-- No step of a reconciliation is refused, and its events tell of the numbers that it draws. -/
theorem reconcile_ok {g : Graph} (sound : g.Sound) (proper : f.Proper) (place : Placement) :
    ∃ es, (g.reconcile f place).outcome = .ok es ∧
      relationsAdded es = g.drawn (.reconcile f place) := by
  have hundeclared := undeclaredEnd?_eq_none proper
  obtain ⟨es, hrows⟩ := exists_runRows_eq sound proper place
  have hends : ∀ key ∈ f.relations.keys,
      canonicalId key.source ∈ (afterPut g f place).keys ∧
        canonicalId key.target ∈ (afterPut g f place).keys ∧ canonicalKey key = key := by
    intro key hkey
    obtain ⟨hs, ht⟩ := proper.joined key hkey
    have hscanonical : canonicalId key.source = key.source := proper.canonical _ hs
    have htcanonical : canonicalId key.target = key.target := proper.canonical _ ht
    rw [canonicalKey, hscanonical, htcanonical]
    exact ⟨mem_keys_afterPut hs, mem_keys_afterPut ht, rfl⟩
  have hnone := run_putRelations place
    (p := ⟨afterPut g f place, es, (newArguments g f).map (·.1)⟩) f.relations hends
  cases hrun : run place ⟨afterPut g f place, es, (newArguments g f).map (·.1)⟩
      (f.relations.map fun e => .putRelation e.1 e.2) with
  | mk q e =>
    rw [hrun] at hnone hrows
    simp only at hnone
    subst hnone
    refine ⟨q.events, ?_, ?_⟩
    · simp only [Graph.reconcile, hundeclared, hrows]
    · simp only [drawn, hundeclared, hrows]

/-- A reconciliation ends with its target. -/
theorem reconcile_eq {g : Graph} (sound : g.Sound) (proper : f.Proper) (place : Placement)
    (room : g.counter.next.toNat + g.drawn (.reconcile f place) ≤ lastNumber) :
    ∃ es, g.reconcile f place =
      ⟨(target g f place).reseed, (newArguments g f).map (·.1), .ok es⟩ := by
  have hends := undeclaredEnd?_eq_none proper
  simp only [drawn, hends] at room
  obtain ⟨es', hfinal⟩ := exists_runRows_eq sound proper place
  rw [hfinal] at room
  obtain ⟨es, hrun⟩ := leads_putRelations (n := g.counter.next.toNat)
    (p := ⟨afterPut g f place, es', (newArguments g f).map (·.1)⟩) f.relations proper.relations
    (fun key h => (proper.joined key h).imp mem_keys_afterPut mem_keys_afterPut)
    (sound_afterPut sound proper place) (Nat.le_add_right _ _) room
  have hnew : f.relations.filter (·.1 ∉ (afterPut g f place).relationKeys) = newRelations g f :=
    filter_relationKeys_kept g f
  rw [List.append_nil, withRelations, hnew] at hrun
  refine ⟨es, ?_⟩
  rw [Graph.reconcile, hends]
  simp only [hfinal, hrun]
  rfl

end Target

end Reconcile

end Argumentation
