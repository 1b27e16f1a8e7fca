import Argumentation.Description.Canonical
import Argumentation.Graph.Basic

/-!
# What graphs say

A graph says which arguments and which relations there are, with which weights.
`framework` is the framework that says the same.  `toText` is the canonical text,
which has the arguments in the order in which they came and then the relations in
the order of their numbers.

Descriptions, places and results say nothing.  `content` leaves them out, and
whatever keeps the content of a graph keeps what it says.
-/

namespace Argumentation.Graph

/-! ## Entries -/

/-- The arguments with their weights. -/
def argumentEntries (g : Graph) : Assoc String (Option Binary64) :=
  g.arguments.map fun a => (a.id, a.weight)

/-- The keys of the relations with their weights. -/
def relationEntries (g : Graph) : Assoc RelationKey (Option Binary64) :=
  g.relations.map fun r => (r.key, r.weight)

theorem mem_argumentEntries_iff {g : Graph} {id : String} {w : Option Binary64} :
    (id, w) ∈ g.argumentEntries ↔ ∃ a ∈ g.arguments, a.id = id ∧ a.weight = w := by
  simp [argumentEntries]

theorem mem_relationEntries_iff {g : Graph} {key : RelationKey} {w : Option Binary64} :
    (key, w) ∈ g.relationEntries ↔ ∃ r ∈ g.relations, r.key = key ∧ r.weight = w := by
  simp [relationEntries]

/-! ## Frameworks -/

/-- What the graph says. -/
def framework (g : Graph) : Framework :=
  let f := g.arguments.foldl (fun f a => f.declareArgument a.id a.weight) {}
  g.relations.foldl (fun f r => f.declareRelation r.key r.weight) f

/-! ## Canonical texts -/

/-- The canonical text of a graph. -/
def toText (g : Graph) : String :=
  String.intercalate "\n"
    (g.arguments.map (fun a => Description.argumentLine a.id a.weight) ++
      g.relations.map fun r => Description.relationLine r.key r.weight)

theorem toText_eq (g : Graph) :
    g.toText = String.intercalate "\n"
      (Description.listingLines g.argumentEntries g.relationEntries) := by
  rw [toText, Description.listingLines, argumentEntries, relationEntries, List.map_map,
    List.map_map]
  rfl

/-- A graph with the entries of a framework has its canonical text. -/
theorem toText_of_entries {g : Graph} {f : Framework}
    (harguments : g.argumentEntries = f.arguments)
    (hrelations : g.relationEntries = f.relations) : g.toText = f.toText := by
  rw [toText_eq, harguments, hrelations]
  rfl

/-! ## Content -/

/-- A node of which the identifier and the weight are left. -/
def weightedNode (n : Node) : Node :=
  ⟨n.key, { id := n.argument.id, weight := n.argument.weight }⟩

/-- The graph without descriptions, places and results. -/
def content (g : Graph) : Graph := { g with nodes := g.nodes.map weightedNode }

section Content

variable {g g' : Graph}

@[simp] theorem argumentEntries_content (g : Graph) :
    g.content.argumentEntries = g.argumentEntries := by
  simp [argumentEntries, arguments, content, weightedNode]

theorem relations_of_content (h : g'.content = g.content) : g'.relations = g.relations := by
  have hrelations : g'.content.relations = g.content.relations := by rw [h]
  exact hrelations

theorem counter_of_content (h : g'.content = g.content) : g'.counter = g.counter := by
  have hcounter : g'.content.counter = g.content.counter := by rw [h]
  exact hcounter

theorem argumentEntries_of_content (h : g'.content = g.content) :
    g'.argumentEntries = g.argumentEntries := by
  rw [← argumentEntries_content, h, argumentEntries_content]

theorem relationEntries_of_content (h : g'.content = g.content) :
    g'.relationEntries = g.relationEntries := by
  rw [relationEntries, relationEntries, relations_of_content h]

theorem toText_of_content (h : g'.content = g.content) : g'.toText = g.toText := by
  rw [toText_eq, toText_eq, argumentEntries_of_content h, relationEntries_of_content h]

theorem content_modifyArgument (g : Graph) (id : String) {f : Argument → Argument}
    (hid : ∀ a, (f a).id = a.id) (hweight : ∀ a, (f a).weight = a.weight) :
    (g.modifyArgument id f).content = g.content := by
  have hnodes : (g.modifyArgument id f).nodes.map weightedNode = g.nodes.map weightedNode := by
    rw [modifyArgument, List.map_map]
    refine List.map_congr_left fun n _ => ?_
    rw [Function.comp_apply]
    split
    · rw [weightedNode, weightedNode, hid, hweight]
    · rfl
  rw [content, hnodes]
  rfl

theorem content_mapArguments (g : Graph) {f : Argument → Argument}
    (hid : ∀ a, (f a).id = a.id) (hweight : ∀ a, (f a).weight = a.weight) :
    (g.mapArguments f).content = g.content := by
  have hnodes : (g.mapArguments f).nodes.map weightedNode = g.nodes.map weightedNode := by
    rw [mapArguments, List.map_map]
    refine List.map_congr_left fun n _ => ?_
    rw [Function.comp_apply, weightedNode, weightedNode, hid, hweight]
  rw [content, hnodes]
  rfl

end Content

end Argumentation.Graph
