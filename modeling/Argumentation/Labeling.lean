import Argumentation.Argument
import Argumentation.Number.Decimal
import Argumentation.Text.Word

/-!
# Labelings

A labeling says of some arguments whether they are in, out or undecided.  It comes
as a row of literals such as `in(a) ou(b) un(c)`.  A literal is a tag, an opening
parenthesis, an argument and a closing one.  The tag may have letters of either
case and must not follow a word character; the argument may stand between blanks and
has neither blanks nor parentheses.  Whatever else a row holds is passed over.
-/

namespace Argumentation

/-- What a labeling says of an argument. -/
inductive LabelStatus where
  /-- The argument is accepted. -/
  | accepted
  /-- The argument is rejected. -/
  | rejected
  /-- The argument is neither accepted nor rejected. -/
  | undecided
  deriving DecidableEq

namespace LabelStatus

/-- The name of a status. -/
def name : LabelStatus → String
  | .accepted => "In"
  | .rejected => "Out"
  | .undecided => "Undecided"

/-- The tags of literals and what they say. -/
def tags : List (String × LabelStatus) :=
  [("undecided", .undecided), ("out", .rejected), ("ou", .rejected), ("un", .undecided),
   ("in", .accepted)]

/-- How an argument of this status looks. -/
def appearance : LabelStatus → Appearance
  | .accepted => .accepted
  | .rejected => .rejected
  | .undecided => .undecided

end LabelStatus

/-- What a labeling says of one argument. -/
structure Literal where
  /-- The status. -/
  status : LabelStatus
  /-- The argument. -/
  argument : String
  deriving DecidableEq

namespace Labeling

/-! ## One literal -/

/-- What stands behind a word, if it stands in front in letters of either case. -/
def stripWord? : List Char → List Char → Option (List Char)
  | [], cs => some cs
  | _ :: _, [] => none
  | w :: ws, c :: cs => if lowerAscii c = w then stripWord? ws cs else none

/-- What stands behind a tag with its opening parenthesis. -/
def stripTag? (cs : List Char) (tag : String × LabelStatus) :
    Option (LabelStatus × List Char) :=
  match stripWord? tag.1.toList cs with
  | some ('(' :: rest) => some (tag.2, rest)
  | _ => none

/-- Whether a character may stand in the argument of a literal. -/
def isArgumentChar (c : Char) : Bool := c ≠ '(' && c ≠ ')' && !Text.isBlank c

/-- The literal in front and what stands behind it. -/
def readLiteral? (cs : List Char) : Option (Literal × List Char) := do
  let (status, rest) ← LabelStatus.tags.findSome? (stripTag? cs)
  let rest := rest.dropWhile Text.isBlank
  let argument := rest.takeWhile isArgumentChar
  match (rest.dropWhile isArgumentChar).dropWhile Text.isBlank with
  | ')' :: rest =>
    if argument = [] then none
    else some (⟨status, canonicalId (String.ofList argument)⟩, rest)
  | _ => none

/-! ## Rows -/

/-- The literals of a row.  `inWord` says whether a word character stands in front,
and `skip` how many characters belong to a literal that was read. -/
def readFrom (inWord : Bool) (skip : Nat) : List Char → List Literal
  | [] => []
  | c :: cs =>
    match skip with
    | k + 1 => readFrom (Text.isWord c) k cs
    | 0 =>
      if inWord then readFrom (Text.isWord c) 0 cs
      else
        match readLiteral? (c :: cs) with
        | some (l, rest) => l :: readFrom (Text.isWord c) (cs.length - rest.length) cs
        | none => readFrom (Text.isWord c) 0 cs

/-- The literals of a row in the order in which they stand. -/
def parse (row : String) : List Literal := readFrom false 0 row.toList

/-- What the last literal that names an argument says of it. -/
def status? (literals : List Literal) (id : String) : Option LabelStatus :=
  (literals.reverse.find? (·.argument = id)).map (·.status)

example : parse "IN(A) ou(b) un( c ) in a)in(d" =
    [⟨.accepted, "a"⟩, ⟨.rejected, "b"⟩, ⟨.undecided, "c"⟩] := by decide +kernel
example : parse "xin(a) in(b)in(c)" = [⟨.accepted, "b"⟩, ⟨.accepted, "c"⟩] := by decide +kernel

end Labeling

end Argumentation
