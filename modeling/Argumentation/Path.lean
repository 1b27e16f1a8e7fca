import Argumentation.Error
import Argumentation.Text.Lowercase

/-!
# Paths of files

A path is a text whose parts are divided by slashes.  Two paths that differ only in
repeated slashes, in slashes at the end or in inner parts that are a single dot
have the same components.  Nothing here looks at what files there are.

The extension of a file name starts behind its last dot.  A name whose only dot is
the first character has none.
-/

namespace Argumentation

namespace Path

/-! ## Components -/

/-- A component of a path. -/
inductive Component where
  /-- The root, for a path that starts with a slash. -/
  | root
  /-- The current directory, for a path that starts with a single dot. -/
  | here
  /-- The directory above. -/
  | above
  /-- The entry of a name. -/
  | entry (name : String)
  deriving DecidableEq

/-- The parts of a path between its slashes. -/
def segments (path : String) : List String := (path.toList.splitOn '/').map String.ofList

/-- The component of a part, if it says anything. -/
def Component.ofSegment? (s : String) : Option Component :=
  if s = "" ∨ s = "." then none else if s = ".." then some .above else some (.entry s)

/-- The component that only the start of a path can have. -/
def lead : List String → List Component
  | "" :: _ :: _ => [.root]
  | "." :: _ => [.here]
  | _ => []

/-- The components of a path. -/
def components (path : String) : List Component :=
  lead (segments path) ++ (segments path).filterMap Component.ofSegment?

/-! ## File names -/

/-- The name of the file that a path leads to. -/
def fileName? (path : String) : Option String :=
  match (components path).getLast? with
  | some (.entry name) => some name
  | _ => none

/-- The parts of a file name around its last dot. -/
def splitName (name : String) : String × Option String :=
  let reversed := name.toList.reverse
  let extension := (reversed.takeWhile (· ≠ '.')).reverse
  match (reversed.dropWhile (· ≠ '.')).drop 1 with
  | [] => (name, none)
  | stem => (String.ofList stem.reverse, some (String.ofList extension))

/-- The name of the file without its extension. -/
def stem? (path : String) : Option String := (fileName? path).map fun name => (splitName name).1

/-- The extension of the name of the file. -/
def extension? (path : String) : Option String :=
  (fileName? path).bind fun name => (splitName name).2

example : components "a//b/./c/" = [.entry "a", .entry "b", .entry "c"] := by decide +kernel
example : components "./a/.." = [.here, .entry "a", .above] := by decide +kernel
example : components "/a" = [.root, .entry "a"] := by decide +kernel
example : components "/" = [.root] ∧ components "" = [] := by decide +kernel
example : stem? "d/a.b.json" = some "a.b" ∧ extension? "d/a.b.json" = some "json" := by
  decide +kernel
example : extension? ".json" = none ∧ extension? "a." = some "" := by decide +kernel
example : extension? "x.json/.." = none ∧ extension? "x.json/." = some "json" := by decide +kernel

end Path

/-! ## File formats -/

/-- The formats of files that hold a project. -/
inductive FileFormat where
  /-- The description and nothing else. -/
  | description
  /-- The project with all its parts. -/
  | project
  deriving DecidableEq

namespace FileFormat

/-- The extension of the files of a format. -/
def extension : FileFormat → String
  | description => "apx"
  | project => "json"

/-- The format that a path tells by its extension, in whatever case. -/
def ofPath (path : String) : Except Error FileFormat :=
  match [description, project].find? fun f =>
      (Path.extension? path).map Text.lowercase = some f.extension with
  | some f => .ok f
  | none => .error (.unsupportedFormat ("'" ++ path ++ "'"))

end FileFormat

end Argumentation
