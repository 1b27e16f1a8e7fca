import Argumentation.Proofs.Graph.Arguments

/-!
# Identifiers that lead to arguments

Every function of a graph that is given the identifier of an argument takes its canonical form
first.  `Finds` lists what these functions do with an identifier that leads to an argument: they
show this argument, change it, remove it or rename it, and leave all others alone.

The identifier that an argument carries is canonical already, and its canonical form is once more
the same identifier.  So an argument that is in a graph is found by the identifier that it carries,
and by those identifiers only that have the same canonical form (`Keyed.finds_iff`).
-/

namespace Argumentation.Graph

/-- The arguments after one of them got another identifier, unless somebody else has it. -/
def renamedAmong (as : List Argument) (a : Argument) (new : String) :
    Except Error (List Argument) :=
  if a.id = new then .ok as
  else if as.any (·.id = new) then .error (.duplicateArgument new)
  else .ok (as.filter (· ≠ a) ++ [{ a with id := new }])

/-- Whether an identifier leads to an argument, whatever is asked for under it. -/
structure Finds (g : Graph) (id : String) (a : Argument) : Prop where
  /-- The argument is the one that is shown. -/
  argument : g.argument? id = some a
  /-- There is an argument of this identifier. -/
  contains : g.contains id = true
  /-- The argument is the only one that is changed in place. -/
  modified : ∀ f,
    (g.modifyArgument id f).arguments = g.arguments.map fun b => if b = a then f b else b
  /-- It is the only one that is removed, and the last event tells so. -/
  removed : ∃ g' es, g.removeArgument id = .ok (g', es ++ [.argumentRemoved a.id]) ∧
    g'.arguments = g.arguments.filter (· ≠ a)
  /-- It is the one that gets another identifier. -/
  renamed : ∀ newId, (g.renameArgument id newId).map (·.1.arguments) =
    renamedAmong g.arguments a (canonicalId newId)

namespace Keyed

variable {g : Graph} (keyed : g.Keyed) {a : Argument} {id : String}
include keyed

theorem mem_keys_iff {k : String} : k ∈ g.keys ↔ g.arguments.any (·.id = k) = true := by
  rw [← keyed.map_id_arguments]
  simp

theorem map_argument_filter_ne (ha : a ∈ g.arguments) :
    (g.nodes.filter (·.key ≠ a.id)).map (·.argument) = g.arguments.filter (· ≠ a) := by
  rw [keyed.map_argument_filter]
  refine List.filter_congr fun b hb => ?_
  rw [decide_eq_decide, ne_eq, ne_eq, keyed.id_eq_iff ha hb]

/-! ## What identifiers lead to -/

section Leads

variable (ha : a ∈ g.arguments) (hid : canonicalId id = a.id)
include ha hid

theorem find?_of_canonicalId : g.nodes.find? (·.key = canonicalId id) = some ⟨a.id, a⟩ := by
  have hfind := keyed.find?_of_mem ha
  rw [keyed.canonicalId_argument ha] at hfind
  rw [hid, hfind]

theorem canonicalId_mem_keys : canonicalId id ∈ g.keys := by
  rw [hid, ← keyed.map_id_arguments]
  exact List.mem_map_of_mem ha

theorem arguments_modifyArgument (f : Argument → Argument) :
    (g.modifyArgument id f).arguments = g.arguments.map fun b => if b = a then f b else b := by
  rw [arguments, arguments, Graph.modifyArgument, List.map_map, List.map_map]
  refine List.map_congr_left fun n hn => ?_
  have hiff : n.key = canonicalId id ↔ n.argument = a := by
    rw [hid, ← keyed.keyed n hn]
    exact keyed.id_eq_iff ha (List.mem_map_of_mem hn)
  simp only [Function.comp_apply, hiff]
  split <;> rfl

theorem removeArgument_eq :
    ∃ g' es, g.removeArgument id = .ok (g', es ++ [.argumentRemoved a.id]) ∧
      g'.arguments = g.arguments.filter (· ≠ a) := by
  have hmem := keyed.canonicalId_mem_keys ha hid
  rw [removeArgument_of_mem hmem, hid]
  exact ⟨_, _, rfl, keyed.map_argument_filter_ne ha⟩

theorem renameArgument_eq (newId : String) :
    (g.renameArgument id newId).map (·.1.arguments) =
      renamedAmong g.arguments a (canonicalId newId) := by
  unfold renamedAmong
  by_cases heq : canonicalId id = canonicalId newId
  · rw [renameArgument_of_eq heq, if_pos (hid ▸ heq)]
    rfl
  · rw [if_neg (hid ▸ heq)]
    by_cases hnew : canonicalId newId ∈ g.keys
    · rw [renameArgument_of_mem heq hnew, if_pos (keyed.mem_keys_iff.1 hnew)]
      rfl
    · rw [renameArgument_of_ne heq hnew (keyed.find?_of_canonicalId ha hid),
        if_neg (mt keyed.mem_keys_iff.2 hnew), ← keyed.map_argument_filter_ne ha]
      exact congrArg Except.ok List.map_append

/-- An argument is found by every identifier that has its own one as canonical form. -/
theorem finds : g.Finds id a where
  argument := by
    rw [argument?, keyed.find?_of_canonicalId ha hid]
    rfl
  contains := contains_iff.2 (keyed.canonicalId_mem_keys ha hid)
  modified := keyed.arguments_modifyArgument ha hid
  removed := keyed.removeArgument_eq ha hid
  renamed := keyed.renameArgument_eq ha hid

end Leads

/-- An argument is found by those identifiers that have its own one as canonical form, and by no
others. -/
theorem finds_iff (ha : a ∈ g.arguments) : g.Finds id a ↔ canonicalId id = a.id := by
  refine ⟨fun finds => ?_, keyed.finds ha⟩
  obtain ⟨n, hfind, rfl⟩ := Option.map_eq_some_iff.1 finds.argument
  have hkey : n.key = canonicalId id := by simpa using List.find?_some hfind
  rw [← hkey, keyed.keyed n (List.mem_of_find?_eq_some hfind)]

/-- An argument is found by the identifier that it carries. -/
theorem finds_self (ha : a ∈ g.arguments) : g.Finds a.id a :=
  keyed.finds ha (keyed.canonicalId_argument ha)

theorem exists_finds (h : canonicalId id ∈ g.keys) : ∃ a ∈ g.arguments, g.Finds id a := by
  rw [← keyed.map_id_arguments] at h
  obtain ⟨a, ha, hid⟩ := List.mem_map.1 h
  exact ⟨a, ha, keyed.finds ha hid.symm⟩

end Keyed

/-! ## After an insertion -/

section Insertion

variable (g : Graph) (a : Argument)

/-- An argument comes under the canonical form of its identifier, unless somebody has it. -/
theorem arguments_insertArgument : (g.perform (.insertArgument a)).1.arguments =
    if g.contains a.id then g.arguments
    else g.arguments ++ [{ a with id := canonicalId a.id }] := by
  simp only [perform, contains_iff]
  by_cases hmem : canonicalId a.id ∈ g.keys
  · rw [insertArgument_of_mem hmem, if_pos hmem]
    rfl
  · rw [insertArgument_of_not_mem hmem, if_neg hmem]
    exact List.map_append

theorem canonicalId_mem_keys_insertArgument :
    canonicalId a.id ∈ (g.perform (.insertArgument a)).1.keys := by
  simp only [perform]
  by_cases hmem : canonicalId a.id ∈ g.keys
  · rw [insertArgument_of_mem hmem]
    exact hmem
  · rw [insertArgument_of_not_mem hmem]
    simp [settle, Except.map, keys]

end Insertion

end Argumentation.Graph
