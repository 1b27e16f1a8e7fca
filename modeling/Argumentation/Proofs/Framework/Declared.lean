import Argumentation.Proofs.Framework.Indexed

/-!
# Declarations

A framework is made by declarations of arguments and of relations, which may come in any order
and may repeat each other.  What they leave is told by the declarations alone: each argument
stands where it was declared first with the weight that it was declared with last, and so does
each relation among those of its kind (`Framework.declares_declared`).

Attacks and supports share one index, and their places are counted apart.  `declare?` looks at a
place before it overwrites what stands there, and fails if there is no such place.  No declaration
ever fails (`exists_declareAll?`), and the indices lead to the places of all that is declared
and to no others.
-/

namespace Argumentation

/-- A declaration. -/
inductive Declaration where
  /-- An argument is declared. -/
  | argument (id : String) (weight : Option Binary64)
  /-- A relation is declared. -/
  | relation (key : RelationKey) (weight : Option Binary64)

/-- The weight of what is declared. -/
def Declaration.weight : Declaration → Option Binary64
  | .argument _ w => w
  | .relation _ w => w

namespace Declaration

/-- The argument that is declared, with its weight. -/
def argument? : Declaration → Option (String × Option Binary64)
  | argument id weight => some (id, weight)
  | relation .. => none

/-- The ends of the relation of a kind that is declared, with its weight. -/
def relation? (kind : RelationKind) : Declaration → Option (Ends × Option Binary64)
  | argument .. => none
  | relation key weight =>
    if key.kind = kind then some ((key.source, key.target), weight) else none

theorem filterMap_concat {β : Type} (declared? : Declaration → Option β) (ds : List Declaration)
    (d : Declaration) :
    (ds ++ [d]).filterMap declared? = ds.filterMap declared? ++ (declared? d).toList := by
  rw [List.filterMap_append, List.filterMap_cons]
  cases declared? d <;> rfl

end Declaration

/-! ## What declarations leave -/

namespace Framework

/-- Makes a declaration. -/
def declare (f : Framework) : Declaration → Framework
  | .argument id w => f.declareArgument id w
  | .relation key w => f.declareRelation key w

/-- The framework of some declarations. -/
def declared (ds : List Declaration) : Framework := ds.foldl declare {}

/-- Whether a framework is what some declarations leave. -/
structure Declares (f : Framework) (ds : List Declaration) : Prop where
  /-- It has their arguments. -/
  arguments : Assoc.Records f.arguments (ds.filterMap Declaration.argument?)
  /-- It has their relations of each kind. -/
  relationsOf : ∀ kind,
    Assoc.Records (f.relationsOf kind) (ds.filterMap (Declaration.relation? kind))

variable {f : Framework}

theorem Distinct.declare (distinct : f.Distinct) (d : Declaration) : (f.declare d).Distinct := by
  cases d with
  | argument id w => exact distinct.declareArgument id w
  | relation key w => exact distinct.declareRelation key w

theorem distinct_declared (ds : List Declaration) : (declared ds).Distinct :=
  List.foldlRecOn ds declare distinct_empty fun _ distinct d _ => distinct.declare d

theorem Declares.declare {ds : List Declaration} (declares : f.Declares ds) (d : Declaration) :
    (f.declare d).Declares (ds ++ [d]) := by
  constructor
  · rw [Declaration.filterMap_concat]
    cases d with
    | argument id weight => exact declares.arguments.put id weight
    | relation key weight =>
      show Assoc.Records (f.declareRelation key weight).arguments (_ ++ [])
      rw [arguments_declareRelation, List.append_nil]
      exact declares.arguments
  · intro kind
    rw [Declaration.filterMap_concat]
    cases d with
    | argument id weight =>
      show Assoc.Records ((f.declareArgument id weight).relationsOf kind) (_ ++ [])
      rw [relationsOf_declareArgument, List.append_nil]
      exact declares.relationsOf kind
    | relation key weight =>
      show Assoc.Records ((f.declareRelation key weight).relationsOf kind) _
      rw [relationsOf_declareRelation, Declaration.relation?]
      split
      · exact (declares.relationsOf kind).put (key.source, key.target) weight
      · rw [Option.toList_none, List.append_nil]
        exact declares.relationsOf kind

theorem Declares.foldl_declare {before : List Declaration} (declares : f.Declares before)
    (ds : List Declaration) : (ds.foldl Framework.declare f).Declares (before ++ ds) := by
  induction ds generalizing f before with
  | nil =>
    rw [List.append_nil]
    exact declares
  | cons d ds ih =>
    rw [List.append_cons]
    exact ih (declares.declare d)

theorem declares_empty : Declares {} [] := by
  refine ⟨⟨rfl, fun _ => rfl⟩, fun kind => ?_⟩
  cases kind <;> exact ⟨rfl, fun _ => rfl⟩

theorem declares_declared (ds : List Declaration) : (declared ds).Declares ds :=
  declares_empty.foldl_declare ds

end Framework

/-! ## Indices -/

namespace IndexedFramework

variable {x : IndexedFramework} {f : Framework}

/-- Declares an argument or a relation.  What is declared again is overwritten, and there is no
result if its place lies outside of the list. -/
def declare? (x : IndexedFramework) : Declaration → Option IndexedFramework
  | .argument id weight =>
    if (x.argumentIndex.get? id).all (· < x.arguments.length) then
      some (x.declareArgument id weight)
    else none
  | .relation key weight =>
    if (x.relationIndex.get? key).all (· < (x.relationsOf key.kind).length) then
      some (x.declareRelation key weight)
    else none

/-- Declares one after the other. -/
def declareAll? (x : IndexedFramework) (ds : List Declaration) : Option IndexedFramework :=
  ds.foldlM declare? x

/-- The argument that the index leads to.  There is no result if its place lies outside of the
list. -/
def argument? (x : IndexedFramework) (id : String) : Option (Option (String × Option Binary64)) :=
  match x.argumentIndex.get? id with
  | some i => x.arguments[i]?.map some
  | none => some none

/-- Whether an argument is in the index. -/
def containsArgument (x : IndexedFramework) (id : String) : Bool := x.argumentIndex.contains id

/-- Whether a relation is in the index. -/
def containsRelation (x : IndexedFramework) (key : RelationKey) : Bool :=
  x.relationIndex.contains key

/-- Whether the indices lead to the places in the lists and nowhere else, so that what is looked up
by way of an index is what the lists have. -/
structure Faithful (x : IndexedFramework) : Prop where
  /-- Arguments are found at their places. -/
  argumentIndex : ∀ id i, x.argumentIndex.get? id = some i ↔ x.arguments[i]?.map (·.1) = some id
  /-- Relations are found at their places among those of their kind. -/
  relationIndex : ∀ key i, x.relationIndex.get? key = some i ↔
    (x.relationsOf key.kind)[i]?.map (·.1) = some (key.source, key.target)
  /-- An argument is looked up in the list. -/
  argument? : ∀ id, x.argument? id = some (x.arguments.find? (·.1 = id))
  /-- An argument is there if the list has it. -/
  containsArgument : ∀ id, x.containsArgument id = Assoc.contains x.arguments id
  /-- A relation is there if the list of its kind has it. -/
  containsRelation : ∀ key,
    x.containsRelation key = Assoc.contains (x.relationsOf key.kind) (key.source, key.target)

namespace Represents

variable (rep : x.Represents f)
include rep

theorem getElem?_arguments (i : Nat) : f.arguments.keys[i]? = x.arguments[i]?.map (·.1) := by
  rw [rep.arguments]
  exact List.getElem?_map

theorem getElem?_relationsOf (kind : RelationKind) (i : Nat) :
    (f.relationsOf kind).keys[i]? = (x.relationsOf kind)[i]?.map (·.1) := by
  rw [rep.relationsOf]
  exact List.getElem?_map

/-- Nothing is overwritten outside of a list. -/
theorem declare? (distinct : f.Distinct) (d : Declaration) :
    ∃ y, x.declare? d = some y ∧ y.Represents (f.declare d) := by
  cases d with
  | argument id weight =>
    refine ⟨_, if_pos ?_, rep.declareArgument distinct id weight⟩
    rw [Option.all_eq_true]
    intro i hi
    have hplace := (rep.argumentIndex id i).1 hi
    rw [rep.getElem?_arguments, Option.map_eq_some_iff] at hplace
    obtain ⟨e, he, -⟩ := hplace
    exact decide_eq_true (List.getElem?_eq_some_iff.1 he).1
  | relation key weight =>
    refine ⟨_, if_pos ?_, rep.declareRelation distinct key weight⟩
    rw [Option.all_eq_true]
    intro i hi
    have hplace := (rep.relationIndex key.kind (key.source, key.target) i).1 hi
    rw [rep.getElem?_relationsOf, Option.map_eq_some_iff] at hplace
    obtain ⟨e, he, -⟩ := hplace
    exact decide_eq_true (List.getElem?_eq_some_iff.1 he).1

theorem declareAll? (distinct : f.Distinct) (ds : List Declaration) :
    ∃ y, x.declareAll? ds = some y ∧ y.Represents (ds.foldl Framework.declare f) := by
  induction ds generalizing x f with
  | nil => exact ⟨x, rfl, rep⟩
  | cons d ds ih =>
    obtain ⟨y, hy, hrep⟩ := rep.declare? distinct d
    obtain ⟨z, hz, hreps⟩ := ih hrep (distinct.declare d)
    refine ⟨z, ?_, hreps⟩
    rw [IndexedFramework.declareAll?, List.foldlM_cons, hy]
    exact hz

theorem argument? (distinct : f.Distinct) (id : String) :
    x.argument? id = some (x.arguments.find? (·.1 = id)) := by
  rw [IndexedFramework.argument?, rep.arguments]
  cases hlook : x.argumentIndex.get? id with
  | none =>
    have hget : f.arguments.get? id = none :=
      Assoc.get?_eq_none_iff.2 (rep.argumentIndex.eq_none_iff.1 hlook)
    rw [Option.map_eq_none_iff.1 hget]
  | some i =>
    have hplace := (rep.argumentIndex id i).1 hlook
    rw [Assoc.keys, List.getElem?_map, Option.map_eq_some_iff] at hplace
    obtain ⟨e, he, rfl⟩ := hplace
    show (f.arguments[i]?).map some = some (f.arguments.find? (·.1 = e.1))
    rw [he, Assoc.find?_of_mem distinct.arguments (List.mem_of_getElem? he)]
    rfl

theorem containsArgument (id : String) :
    x.containsArgument id = Assoc.contains x.arguments id := by
  rw [IndexedFramework.containsArgument, rep.arguments, Bool.eq_iff_iff, Assoc.contains_iff,
    Assoc.contains_iff]
  exact not_iff_not.1 (Assoc.get?_eq_none_iff.symm.trans rep.argumentIndex.eq_none_iff)

theorem containsRelation (key : RelationKey) : x.containsRelation key =
    Assoc.contains (x.relationsOf key.kind) (key.source, key.target) := by
  rw [IndexedFramework.containsRelation, rep.relationsOf, Bool.eq_iff_iff, Assoc.contains_iff,
    Assoc.contains_iff]
  have hnone := (rep.relationIndex key.kind).eq_none_iff (k := (key.source, key.target))
  exact not_iff_not.1 (Assoc.get?_eq_none_iff.symm.trans hnone)

theorem faithful (distinct : f.Distinct) : x.Faithful where
  argumentIndex id i := by
    rw [← rep.getElem?_arguments]
    exact rep.argumentIndex id i
  relationIndex key i := by
    rw [← rep.getElem?_relationsOf]
    exact rep.relationIndex key.kind (key.source, key.target) i
  argument? := rep.argument? distinct
  containsArgument := rep.containsArgument
  containsRelation := rep.containsRelation

end Represents

/-- Whatever is declared, and in whatever order, nothing is ever overwritten outside of a list.  The
lists are what the declarations leave: each argument once, and each relation of a kind once, where
it was declared first with the weight that it was declared with last.  The indices lead to all of
them and to nothing else. -/
theorem exists_declareAll? (ds : List Declaration) :
    ∃ x : IndexedFramework, declareAll? {} ds = some x ∧
      x.Represents (Framework.declared ds) ∧
      Assoc.Records x.arguments (ds.filterMap Declaration.argument?) ∧
      (∀ kind, Assoc.Records (x.relationsOf kind) (ds.filterMap (Declaration.relation? kind))) ∧
      x.Faithful := by
  obtain ⟨x, hx, rep⟩ := represents_empty.declareAll? Framework.distinct_empty ds
  have declares := Framework.declares_declared ds
  refine ⟨x, hx, rep, ?_, fun kind => ?_, rep.faithful (Framework.distinct_declared ds)⟩
  · rw [rep.arguments]
    exact declares.arguments
  · rw [rep.relationsOf]
    exact declares.relationsOf kind

example : (declareAll? {} [.relation ⟨.attack, "a", "b"⟩ none,
    .relation ⟨.support, "b", "a"⟩ none, .relation ⟨.support, "a", "b"⟩ none,
    .relation ⟨.attack, "a", "b"⟩ (some 1)]).map (fun x => (x.attacks, x.supports)) =
      some ([(("a", "b"), some 1)], [(("b", "a"), none), (("a", "b"), none)]) := by
  decide +kernel

end IndexedFramework

end Argumentation
