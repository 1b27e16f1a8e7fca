import Argumentation.Command.Run
import Std.Time.DateTime

/-!
# The program

The command line on the files and the clock of the system.
-/

namespace Argumentation

/-! ## Files of the system -/

/-- The number of a system error, which some operations give with a minus sign. -/
def systemNumber (code : UInt32) : UInt32 := if code < 0x80000000 then code else 0 - code

/-- Why the system cannot use a file.  Number 20 tells that a file stands in the place
of a directory, and number 36 that a name is too long. -/
def FileFault.ofSystem : IO.Error → FileFault
  | .noFileOrDirectory .. => .missing
  | .permissionDenied .. => .denied
  | .inappropriateType _ code _ => if systemNumber code = 20 then .notDirectory else .isDirectory
  | .invalidArgument _ code _ => if systemNumber code = 36 then .tooLong else .invalidPath
  | _ => .other

/-- What an operation on files gives, or why it fails. -/
def attempt {α : Type} (act : IO α) : IO (Except FileFault α) := do
  match ← act.toBaseIO with
  | .ok a => return .ok a
  | .error e => return .error (.ofSystem e)

/-- The text of a content. -/
def decodeText (content : ByteArray) : Except FileFault String :=
  match String.fromUTF8? content with
  | some s => .ok s
  | none => .error .notText

instance : Files IO where
  read path := do return (← attempt (IO.FS.readBinFile path)).bind decodeText
  write path content := attempt (IO.FS.writeFile path content)
  realName? path := do
    return (← attempt (IO.FS.realPath path)).toOption.map (·.toString)

/-! ## The clock of the system -/

/-- A number with zeros in front of it. -/
def padded (width n : Nat) : String :=
  let digits := Nat.repr n
  String.ofList (List.replicate (width - digits.length) '0') ++ digits

/-- The part of a second, with as many digits as it needs in groups of three. -/
def fractionText (nanoseconds : Nat) : String :=
  if nanoseconds = 0 then ""
  else if nanoseconds % 1000000 = 0 then "." ++ padded 3 (nanoseconds / 1000000)
  else if nanoseconds % 1000 = 0 then "." ++ padded 6 (nanoseconds / 1000)
  else "." ++ padded 9 nanoseconds

/-- A date and a time of the day at the zero meridian. -/
def dateText (t : Std.Time.PlainDateTime) : String :=
  padded 4 t.year.toInt.toNat ++ "-" ++ padded 2 t.month.val.toNat ++ "-" ++
    padded 2 t.day.val.toNat ++ "T" ++ padded 2 t.hour.val.toNat ++ ":" ++
    padded 2 t.minute.val.toNat ++ ":" ++ padded 2 t.second.val.toNat ++
    fractionText t.nanosecond.val.toNat ++ "+00:00"

/-- The present date. -/
def today : IO String := do
  let t ← Std.Time.Timestamp.now
  return dateText (.ofWallTime (.ofNanoseconds t.toNanosecondsSinceUnixEpoch))

end Argumentation

/-- Runs the command line. -/
def main (words : List String) : IO UInt32 := do
  let date ← Argumentation.today
  let report : Argumentation.Command.Report ← Argumentation.Command.run date words
  IO.print report.output
  IO.eprint report.errors
  return report.code.toUInt32
