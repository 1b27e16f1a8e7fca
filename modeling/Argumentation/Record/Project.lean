import Argumentation.Json.Reader
import Argumentation.Json.Writer
import Argumentation.Project
import Argumentation.Record.Graph
import Argumentation.Semantics.Response

/-!
# Records of projects

How project documents are written to JSON and read from trees of data.  A document
is written over many lines, with a value for every part.
-/

namespace Argumentation

open DataTree

namespace Project

/-! ## Reading -/

/-- Reads what a document says about itself. -/
def Metadata.read? {δ : Type} [DataTree δ] (d : δ) : Option Metadata := do
  match ← record? 5 ["projectName", "exportDate", "version", "nodeCount", "edgeCount"] d with
  | [name, date, version, nodes, edges] =>
    some ⟨← required text? name, ← required text? date, ← required text? version,
      ← required natural? nodes, ← required natural? edges⟩
  | _ => none

/-- Reads what a document says about an argument. -/
def Node.read? {δ : Type} [DataTree δ] (d : δ) : Option Node := do
  match ← record? 1 ["id", "weight", "description", "position"] d with
  | [id, weight, description, position] =>
    some ⟨← required text? id, ← optional number? weight, ← optional text? description,
      ← optional Position.read? position⟩
  | _ => none

/-- Reads what a document says about a relation. -/
def Edge.read? {δ : Type} [DataTree δ] (d : δ) : Option Edge := do
  match ← record? 4 ["id", "source", "target", "type", "weight"] d with
  | [id, source, target, kind, weight] =>
    some ⟨← required RelationId.read? id, ← required text? source, ← required text? target,
      ← required RelationKind.read? kind, ← optional number? weight⟩
  | _ => none

/-- Reads the arguments and the relations. -/
def readGraph? {δ : Type} [DataTree δ] (d : δ) : Option (List Node × List Edge) := do
  match ← record? 0 ["nodes", "edges"] d with
  | [nodes, edges] =>
    some (← orElse [] (listOf Node.read?) nodes, ← orElse [] (listOf Edge.read?) edges)
  | _ => none

/-- Reads a document. -/
def read? {δ : Type} [DataTree δ] (d : δ) : Option Project := do
  match ← record? 0 ["metadata", "graph", "layout", "description"] d with
  | [metadata, graph, layout, description] => do
    let metadata ← optional Metadata.read? metadata
    let (nodes, edges) ← orElse ([], []) readGraph? graph
    let layout ← optional text? layout
    let description ← optional text? description
    some ⟨metadata, nodes, edges, layout, description⟩
  | _ => none

/-- The document of a text. -/
def ofText (content : String) : Except Error Project :=
  match (Json.parse? content).bind read? with
  | some p => .ok p
  | none => .error malformedJson

/-! ## Writing -/

/-- Writes what a document says about itself. -/
def Metadata.toJson (m : Metadata) : Json :=
  .object [("projectName", .text m.projectName), ("exportDate", .text m.exportDate),
    ("version", .text m.version), ("nodeCount", .natural m.nodeCount),
    ("edgeCount", .natural m.edgeCount)]

/-- Writes what a document says about an argument. -/
def Node.toJson (n : Node) : Json :=
  .object [("id", .text n.id), ("weight", .option .float n.weight),
    ("description", .option .text n.description),
    ("position", .option Position.toJson n.position)]

/-- Writes what a document says about a relation. -/
def Edge.toJson (e : Edge) : Json :=
  .object [("id", e.id.toJson), ("source", .text e.source), ("target", .text e.target),
    ("type", e.kind.toJson), ("weight", .option .float e.weight)]

/-- Writes a document. -/
def toJson (p : Project) : Json :=
  .object [("metadata", .option Metadata.toJson p.metadata),
    ("graph", .object [("nodes", .array (p.nodes.map Node.toJson)),
      ("edges", .array (p.edges.map Edge.toJson))]),
    ("layout", .option .text p.layout), ("description", .option .text p.description)]

/-- The text of a document. -/
def toText (p : Project) : String := p.toJson.pretty

end Project

end Argumentation
