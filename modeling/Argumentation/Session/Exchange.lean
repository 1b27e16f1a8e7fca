import Argumentation.Path
import Argumentation.Record.Project
import Argumentation.Session.Basic

/-!
# Exporting and importing projects

A session is exported as its description or as a project document.  When it is
imported again, the description is applied first.  What a description does not say,
the descriptions and places of arguments and the layout, is then taken from the
document, as far as the document has it.  Arguments that the description does not
declare are passed over.
-/

namespace Argumentation

namespace Session

/-! ## Exporting -/

/-- The project document of a session, written at a date. -/
def toProject (s : Session) (date : String) : Project where
  metadata := some ⟨s.projectName, date, Project.formatVersion, s.graph.nodes.length,
    s.graph.relations.length⟩
  nodes := s.graph.arguments.map .ofArgument
  edges := s.graph.relations.map .ofRelation
  layout := some s.layout
  description := some s.description

/-- The text of a session in a format, written at a date. -/
def exportText (s : Session) (date : String) : FileFormat → String
  | .description => s.description
  | .project => (s.toProject date).toText

/-- The path that a session is exported to if no other is given. -/
def defaultPath (s : Session) (format : FileFormat) : String :=
  s.projectName ++ "." ++ format.extension

/-! ## Importing -/

/-- A text that is there and not blank. -/
def nonBlank? (s : Option String) : Option String := s.filter (!Text.isBlankText ·)

/-- Gives an argument the description and the place that a document has for it. -/
def restoreNode (s : Session) (n : Project.Node) : Session :=
  { s with
    graph := s.graph.modifyArgument n.id fun a =>
      { a with
        description := n.description.or a.description
        position := n.position.getD a.position } }

/-- Takes over what a description does not say. -/
def restore (s : Session) (p : Project) : Session :=
  let s := p.nodes.foldl restoreNode s
  let s := match nonBlank? p.layout with
    | some layout => s.setLayout layout
    | none => s
  { s with graph := s.graph.reseed }

/-- Takes the name that a document has. -/
def takeName (s : Session) (p : Project) : Session :=
  match nonBlank? (p.metadata.map (·.projectName)) with
  | some name => s.setProjectName name
  | none => s

/-- Applies the description that a document has. -/
def takeDescription (s : Session) (p : Project) : Session × Except Error Outcome :=
  match nonBlank? p.description with
  | some text => s.applyDescription text
  | none => (s, .ok (s.outcome []))

/-- Imports a project document. -/
def importProject (s : Session) (p : Project) : Session × Except Error Outcome :=
  match (s.takeName p).takeDescription p with
  | (s, .error e) => (s, .error e)
  | (s, .ok outcome) => (s.restore p, .ok outcome)

/-- Imports the text of a format. -/
def importText (s : Session) (content : String) : FileFormat → Session × Except Error Outcome
  | .description => s.applyDescription content
  | .project =>
    match Project.ofText content with
    | .error e => (s, .error e)
    | .ok p => s.importProject p

/-- Starts a new project, which has the name of a file, from the content of the file. -/
def importContent (s : Session) (path : String) (format : FileFormat) (content : String) :
    Session × Except Error Outcome :=
  let s := s.reset
  let s := match Path.stem? path with
    | some stem => s.setProjectName stem
    | none => s
  s.importText content format

/-- Starts a new project from a file that was read.  A file that could not be read changes
nothing. -/
def importRead (s : Session) (path : String) (format : FileFormat) :
    Except Error String → Session × Except Error Outcome
  | .ok content => s.importContent path format content
  | .error e => (s, .error e)

end Session

end Argumentation
