import Argumentation.Argument
import Argumentation.Limits
import Argumentation.Number.Decimal
import Argumentation.Validation

/-!
# Strengths

The strengths of arguments come as lines such as `a:0.25`.  A strength lies between
zero and one and is shown by a colour: the scale from red to green has 29 buckets,
and a strength belongs to the first bucket whose bound is not below it.
-/

namespace Argumentation

namespace Strength

/-! ## Lines -/

/-- The characters before a colon and those behind it. -/
def splitColon? (cs : List Char) : Option (List Char × List Char) :=
  match cs.dropWhile (· ≠ ':') with
  | _ :: rest => some (cs.takeWhile (· ≠ ':'), rest)
  | [] => none

/-- Whether some characters are digits with at most one point, which has a digit
behind it. -/
def isDecimal (cs : List Char) : Bool :=
  match cs.dropWhile isDigit with
  | [] => cs ≠ []
  | '.' :: rest => rest ≠ [] && rest.all isDigit
  | _ => false

/-- The argument and the strength of a line, if it has the form and the strength
lies between zero and one. -/
def parseLine? (line : String) : Option (String × Binary64) := do
  let (id, value) ← splitColon? (Text.trimChars line.toList)
  if id ≠ [] ∧ id.all isAlphanumeric ∧ isDecimal value then do
    let x ← Binary64.ofChars? value
    if unitRange.contains x then some (canonicalId (String.ofList id), x) else none
  else none

/-! ## Buckets -/

/-- A bound given in thousandths. -/
def thousandths (n : Nat) : Binary64 := .ofDecimal false ⟨n, -3⟩

/-- The upper bounds of the buckets. -/
def bounds : List Binary64 :=
  [0, 36, 71, 107, 143, 179, 214, 250, 286, 321, 357, 393, 429, 464, 500, 536, 571, 607, 643,
    679, 714, 750, 786, 821, 857, 893, 929, 964, 1000].map thousandths

/-- The last bucket. -/
def lastBucket : Nat := 28

/-- The bucket of a strength. -/
def bucket (x : Binary64) : Nat := (bounds.findIdx? x.le).getD lastBucket

example : bounds.length = lastBucket + 1 := rfl
example : bucket (1 / 2) = 14 ∧ bucket 0 = 0 ∧ bucket 2 = 28 := by decide +kernel
example : (parseLine? " A:.5 ").map (·.1) = some "a" := by decide +kernel
example : parseLine? "a:1." = none ∧ parseLine? "a:-1" = none ∧ parseLine? "a:2" = none := by
  decide +kernel

end Strength

end Argumentation
