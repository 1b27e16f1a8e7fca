import Argumentation.Files.Basic
import Argumentation.Record.Config
import Argumentation.Session.Exchange

/-!
# Sessions and files

Projects and configurations are read from files and written to files.  The
extension of a path tells the format of a project.  A configuration file that is
not there stands for the standard configuration.
-/

namespace Argumentation

variable {m : Type → Type} [Monad m] [Files m]

/-! ## Configurations -/

/-- The configuration of a file. -/
def Config.load (path : String) : m (Except Error Config) := do
  match ← Files.realName? path with
  | none => return .ok {}
  | some _ => return (← readFile path).bind Config.ofToml

/-- Writes a configuration to a file. -/
def Config.save (c : Config) (path : String) : m (Except Error Unit) := do
  match c.toToml with
  | .error e => return .error e
  | .ok content => writeFile path content

namespace Session

/-! ## Projects -/

/-- Starts a new project from a file. -/
def importFile (s : Session) (path : String) : m (Session × Except Error Outcome) := do
  match FileFormat.ofPath path with
  | .error e => return (s, .error e)
  | .ok format => return s.importRead path format (← readFile path)

/-- Writes a session to a file at a date. -/
def exportFile (s : Session) (date path : String) : m (Except Error Unit) := do
  match FileFormat.ofPath path with
  | .error e => return .error e
  | .ok format => writeFile path (s.exportText date format)

/-- Whether two paths lead to the same file.  If one of them leads to nothing, their
components decide. -/
def sameFile (p q : String) : m Bool := do
  match ← Files.realName? p, ← Files.realName? q with
  | some a, some b => return a = b
  | _, _ => return Path.components p = Path.components q

/-- Where a session that comes from a file is exported to: to the given path or to
the default one.  The file that it comes from is never overwritten. -/
def exportDestination (s : Session) (source : String) (output : Option String) :
    m (Except Error String) := do
  let output := output.getD (s.defaultPath .project)
  if ← sameFile source output then
    return .error (.invalidRequest
      ("export would overwrite its source " ++ source ++ "; choose another output"))
  else return .ok output

end Session

end Argumentation
