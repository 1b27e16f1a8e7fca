import Argumentation.Data.Assoc
import Argumentation.Files.Basic
import Argumentation.Path

/-!
# File trees in memory

A file tree is a list of entries, each under the names of the directories on the way
from the root to it and its own, with one directory that is worked in.  A path
is followed part by part, from the root if it starts with a slash and from the working
directory otherwise.  A dot stays, two dots go up, a name needs an entry.  Above the root
is the root.

To write a file creates it if the directory on the way to it is there.  A path
that ends in a slash or in dots names a directory, so nothing is written to it.
-/

namespace Argumentation

/-- An entry of a file tree. -/
inductive Entry where
  /-- A file with its content. -/
  | file (content : ByteArray)
  /-- A directory. -/
  | directory

/-- A place in a file tree: the names on the way from the root to it. -/
abbrev Place := List String

/-- The place that one part of a path leads to from a directory. -/
def Place.move (p : Place) (segment : String) : Place :=
  if segment = "" ∨ segment = "." then p
  else if segment = ".." then p.dropLast
  else p ++ [segment]

/-- The name of a place from the root. -/
def Place.name (p : Place) : String := "/" ++ String.intercalate "/" p

/-- A file tree with the directory that is worked in. -/
structure FileTree where
  /-- The working directory.  It is there, and so are the directories on the way to it. -/
  working : Place
  /-- The entries that were put into the tree. -/
  entries : Assoc Place Entry := []

namespace FileTree

/-! ## Following paths -/

/-- The greatest length of a name in bytes. -/
def nameLimit : Nat := 255

/-- The length in bytes that a path does not reach. -/
def pathLimit : Nat := 4096

/-- The entry at a place. -/
def entry? (t : FileTree) (p : Place) : Option Entry :=
  if p.isPrefixOf t.working then some .directory else t.entries.get? p

/-- Where a path starts. -/
def start (t : FileTree) (path : String) : Place :=
  if path.toList.head? = some '/' then [] else t.working

/-- Refuses a place that is no directory. -/
def checkDirectory (t : FileTree) (p : Place) : Except FileFault Unit :=
  match t.entry? p with
  | none => .error .missing
  | some (.file _) => .error .notDirectory
  | some .directory => .ok ()

/-- One part of a path further, from a place where a directory has to be. -/
def step (t : FileTree) (p : Place) (segment : String) : Except FileFault Place := do
  t.checkDirectory p
  if nameLimit < segment.utf8ByteSize then .error .tooLong else .ok (p.move segment)

/-- Refuses a text that is no path. -/
def checkText (path : String) : Except FileFault Unit :=
  if path.toList.contains '\x00' then .error .invalidPath
  else if path = "" then .error .missing
  else .ok ()

/-- Refuses a path that no file is opened by. -/
def checkPath (path : String) : Except FileFault Unit := do
  checkText path
  if pathLimit ≤ path.utf8ByteSize then .error .tooLong else .ok ()

/-- The place that a path leads to by the given steps, and the entry there. -/
def follow (t : FileTree) (step : Place → String → Except FileFault Place) (path : String) :
    Except FileFault (Place × Entry) := do
  let p ← (Path.segments path).foldlM step (t.start path)
  match t.entry? p with
  | some e => .ok (p, e)
  | none => .error .missing

/-! ## Operations -/

/-- The text of the file at a path. -/
def read (t : FileTree) (path : String) : Except FileFault String := do
  checkPath path
  match ← t.follow t.step path with
  | (_, .directory) => .error .isDirectory
  | (_, .file content) =>
    match String.fromUTF8? content with
    | some s => .ok s
    | none => .error .notText

/-- The parts of a path without the empty ones at its end. -/
def dropSlashes (segments : List String) : List String :=
  (segments.reverse.dropWhile (· = "")).reverse

/-- The tree in which the entry at a place is as given. -/
def put (t : FileTree) (p : Place) (e : Entry) : FileTree :=
  { t with entries := Assoc.put p e t.entries }

/-- The place that is written to by a path.  That the path names a directory is seen before
its last name is looked at. -/
def target (t : FileTree) (path : String) : Except FileFault Place := do
  checkPath path
  let segments := Path.segments path
  let named := dropSlashes segments
  let parent ← named.dropLast.foldlM t.step (t.start path)
  t.checkDirectory parent
  if named ≠ segments ∨ named.getLastD "." ∈ [".", ".."] then .error .isDirectory
  else
    let p ← t.step parent (named.getLastD ".")
    match t.entry? p with
    | some .directory => .error .isDirectory
    | _ => .ok p

/-- The tree after a text is written to the file at a path. -/
def write (t : FileTree) (path content : String) : Except FileFault FileTree := do
  let p ← t.target path
  .ok (t.put p (.file content.toUTF8))

/-- A step to a place whose name is short enough for a path. -/
def stepNamed (t : FileTree) (p : Place) (segment : String) : Except FileFault Place := do
  let q ← t.step p segment
  if pathLimit ≤ q.name.utf8ByteSize then .error .tooLong else .ok q

/-- The real name of what a path leads to.  It is found part by part, so the path itself may
have any length. -/
def realName? (t : FileTree) (path : String) : Option String :=
  match checkText path, t.follow t.stepNamed path with
  | .ok (), .ok (p, _) => some p.name
  | _, _ => none

/-- The tree with a directory at a place, unless there is an entry. -/
def ensureDirectory (t : FileTree) (p : Place) : FileTree :=
  if (t.entry? p).isSome then t else t.put p .directory

/-- The tree with an entry at a path and the directories on the way to it.  A directory that
is there stays. -/
def place (t : FileTree) (path : String) (e : Entry) : FileTree :=
  let advance (reached : FileTree × Place) (segment : String) : FileTree × Place :=
    (reached.1.ensureDirectory reached.2, reached.2.move segment)
  let (t, p) := (Path.segments path).foldl advance (t, t.start path)
  match t.entry? p with
  | some .directory => t
  | _ => t.put p e

example : (FileTree.mk ["a", "b"] []).realName? "../.." = some "/" := by decide +kernel
example : (FileTree.mk ["a", "b"] []).realName? "/.." = some "/" := by decide +kernel
example : (FileTree.mk ["a", "b"] []).realName? "c/.." = none := by decide +kernel

end FileTree

instance : Files (StateM FileTree) where
  read path := do return (← get).read path
  write path content := do
    match (← get).write path content with
    | .ok t =>
      set t
      return .ok ()
    | .error fault => return .error fault
  realName? path := do return (← get).realName? path

end Argumentation
