import Argumentation.Error

/-!
# Files

What the library asks of a file system: to read a text, to write one and to tell
where a path really leads.  `Files` holds these operations in a monad, so that they
can be answered by the system or by a `FileTree` that lives in memory.

A file that is not there is reported as a missing item.  All other faults are
reported as faults of the file system.
-/

namespace Argumentation

/-- Why a file cannot be used. -/
inductive FileFault where
  /-- The file, or a directory on the way to it, is not there. -/
  | missing
  /-- A directory stands where a file is needed. -/
  | isDirectory
  /-- A file stands where a directory is needed. -/
  | notDirectory
  /-- The content is no text. -/
  | notText
  /-- The path is none. -/
  | invalidPath
  /-- The path or one of its parts is too long. -/
  | tooLong
  /-- The file may not be used. -/
  | denied
  /-- The system gives another reason. -/
  | other
  deriving DecidableEq

namespace FileFault

/-- The fault in words. -/
def describe : FileFault → String
  | missing => "No such file or directory (os error 2)"
  | isDirectory => "is a directory"
  | notDirectory => "not a directory"
  | notText => "invalid data"
  | invalidPath => "invalid input parameter"
  | tooLong => "invalid filename"
  | denied => "permission denied"
  | other => "uncategorized error"

/-- The error that a fault leads to. -/
def toError : FileFault → Error
  | missing => .notFound missing.describe
  | fault => .file ("IOError: " ++ fault.describe)

end FileFault

/-- The operations on files. -/
class Files (m : Type → Type) where
  /-- The text of the file at a path. -/
  read : String → m (Except FileFault String)
  /-- Writes a text to the file at a path, in place of what it held. -/
  write : String → String → m (Except FileFault Unit)
  /-- The real name of what a path leads to, if it leads to something.  Two paths
  lead to the same place if and only if they have the same real name. -/
  realName? : String → m (Option String)

/-- The text of a file, or the error to report. -/
def readFile {m : Type → Type} [Monad m] [Files m] (path : String) : m (Except Error String) := do
  return (← Files.read path).mapError FileFault.toError

/-- Writes a text to a file and tells the error to report. -/
def writeFile {m : Type → Type} [Monad m] [Files m] (path content : String) :
    m (Except Error Unit) := do
  return (← Files.write path content).mapError FileFault.toError

end Argumentation
