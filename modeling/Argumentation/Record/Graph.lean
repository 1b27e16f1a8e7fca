import Argumentation.Argument
import Argumentation.Data.DataTree
import Argumentation.Event
import Argumentation.Json.Value

/-!
# Records of graphs

How the parts of a graph are written to JSON and read from trees of data.
-/

namespace Argumentation

open DataTree

/-! ## Relations -/

/-- Reads a relation number. -/
def RelationId.read? {δ : Type} [DataTree δ] (d : δ) : Option RelationId :=
  (text? d).bind RelationId.ofText?

/-- Writes a relation number. -/
def RelationId.toJson (id : RelationId) : Json := .text id.toText

/-- Reads a kind of relation. -/
def RelationKind.read? {δ : Type} [DataTree δ] : δ → Option RelationKind :=
  plainChoice RelationKind.ofName?

/-- Writes a kind of relation. -/
def RelationKind.toJson (k : RelationKind) : Json := .text k.name

/-- Reads a relation. -/
def Relation.read? {δ : Type} [DataTree δ] (d : δ) : Option Relation := do
  match ← record? 5 ["id", "source", "target", "kind", "weight"] d with
  | [id, source, target, kind, weight] =>
    some ⟨← required RelationId.read? id, ← required text? source, ← required text? target,
      ← required RelationKind.read? kind, ← optional number? weight⟩
  | _ => none

/-- Writes a relation. -/
def Relation.toJson (r : Relation) : Json :=
  .object [("id", r.id.toJson), ("source", .text r.source), ("target", .text r.target),
    ("kind", r.kind.toJson), ("weight", .option .float r.weight)]

/-! ## Arguments -/

/-- Reads a place. -/
def Position.read? {δ : Type} [DataTree δ] (d : δ) : Option Position := do
  match ← record? 2 ["x", "y"] d with
  | [x, y] => some ⟨← required number? x, ← required number? y⟩
  | _ => none

/-- Writes a place. -/
def Position.toJson (p : Position) : Json := .object [("x", .float p.x), ("y", .float p.y)]

/-- Reads an argument.  The results that are shown on it are not kept. -/
def Argument.read? {δ : Type} [DataTree δ] (d : δ) : Option Argument := do
  match ← record? 4 ["id", "weight", "description", "position"] d with
  | [id, weight, description, position] =>
    some { id := ← required text? id
           weight := ← optional number? weight
           description := ← optional text? description
           position := ← required Position.read? position }
  | _ => none

/-- Writes an argument. -/
def Argument.toJson (a : Argument) : Json :=
  .object [("id", .text a.id), ("weight", .option .float a.weight),
    ("description", .option .text a.description), ("position", a.position.toJson)]

/-- The appearances without a strength, by their names. -/
def Appearance.ofName? : String → Option Appearance
  | "Default" => some .plain
  | "In" => some .accepted
  | "Out" => some .rejected
  | "Undecided" => some .undecided
  | _ => none

/-- The name of an appearance. -/
def Appearance.name : Appearance → String
  | .plain => "Default"
  | .accepted => "In"
  | .rejected => "Out"
  | .undecided => "Undecided"
  | .strength bucket => "Strength(" ++ Nat.repr bucket ++ ")"

/-- Reads an appearance. -/
def Appearance.read? {δ : Type} [DataTree δ] (d : δ) : Option Appearance := do
  match ← choice? d with
  | ("Strength", some e) => (natural? e).map .strength
  | _ => plainChoice Appearance.ofName? d

/-- Writes an appearance. -/
def Appearance.toJson : Appearance → Json
  | .strength bucket => .object [("Strength", .natural bucket)]
  | a => .text a.name

/-! ## Events -/

/-- Reads an event. -/
def Event.read? {δ : Type} [DataTree δ] (d : δ) : Option Event := do
  match ← choice? d with
  | ("ArgumentAdded", some e) => (text? e).map .argumentAdded
  | ("ArgumentUpdated", some e) => (text? e).map .argumentUpdated
  | ("ArgumentRenamed", some e) => do
    match ← items? e with
    | [old, new] => some (.argumentRenamed (← text? old) (← text? new))
    | _ => none
  | ("ArgumentRemoved", some e) => (text? e).map .argumentRemoved
  | ("RelationAdded", some e) => (RelationId.read? e).map .relationAdded
  | ("RelationUpdated", some e) => (RelationId.read? e).map .relationUpdated
  | ("RelationMoved", some e) => (RelationId.read? e).map .relationMoved
  | ("RelationRemoved", some e) => (RelationId.read? e).map .relationRemoved
  | _ => none

/-- Writes what an event is about. -/
def Event.subjectJson : Event → Json
  | .argumentRenamed old new => .array [.text old, .text new]
  | e => .text e.subject

/-- Writes an event. -/
def Event.toJson (e : Event) : Json := .object [(e.name, e.subjectJson)]

end Argumentation
