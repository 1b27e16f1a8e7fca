import Argumentation.Argument
import Argumentation.Relation

/-!
# Project documents

A project document holds all of a project: the description, the places and
descriptions of the arguments, the relations with their numbers and the layout.
Any part may be missing from a document that comes from elsewhere.
-/

namespace Argumentation

namespace Project

/-- What a project document says about itself. -/
structure Metadata where
  /-- The name of the project. -/
  projectName : String
  /-- When the document was written. -/
  exportDate : String
  /-- The version of the format. -/
  version : String
  /-- The number of arguments. -/
  nodeCount : Nat
  /-- The number of relations. -/
  edgeCount : Nat
  deriving DecidableEq

/-- What a project document says about an argument. -/
structure Node where
  /-- The identifier. -/
  id : String
  /-- The weight. -/
  weight : Option Binary64 := none
  /-- The description. -/
  description : Option String := none
  /-- The place on the canvas. -/
  position : Option Position := none
  deriving DecidableEq

/-- What a project document says about a relation. -/
structure Edge where
  /-- The number it is called by. -/
  id : RelationId
  /-- The argument it starts from. -/
  source : String
  /-- The argument it leads to. -/
  target : String
  /-- Attack or support. -/
  kind : RelationKind
  /-- The weight. -/
  weight : Option Binary64 := none
  deriving DecidableEq

/-- The version of the format that is written. -/
def formatVersion : String := "1.0"

/-- What is said about an argument. -/
def Node.ofArgument (a : Argument) : Node := ⟨a.id, a.weight, a.description, some a.position⟩

/-- What is said about a relation. -/
def Edge.ofRelation (r : Relation) : Edge := ⟨r.id, r.source, r.target, r.kind, r.weight⟩

end Project

/-- A project document. -/
structure Project where
  /-- What the document says about itself. -/
  metadata : Option Project.Metadata := none
  /-- The arguments. -/
  nodes : List Project.Node := []
  /-- The relations. -/
  edges : List Project.Edge := []
  /-- The name of the layout. -/
  layout : Option String := none
  /-- The description. -/
  description : Option String := none
  deriving DecidableEq

end Argumentation
