import Argumentation.Number.Binary64

/-!
# Reading decimal numbers

A decimal is a whole coefficient times a power of ten.  It is read from digits,
of which some may stand behind a point, and an exponent.  `Binary64.ofDecimal` is
the floating-point number nearest to it, and `Binary64.ofText?` reads a whole text
with its sign, the names of the infinities and of what is no number included.
-/

namespace Argumentation

/-! ## Digits -/

/-- Whether a character is one of the ten ASCII digits. -/
def isDigit (c : Char) : Bool := '0' ≤ c && c ≤ '9'

/-- The value of a digit. -/
def digitValue (c : Char) : Nat := c.toNat - '0'.toNat

/-- The value of a row of digits. -/
def digitsValue (cs : List Char) : Nat := cs.foldl (fun n c => 10 * n + digitValue c) 0

/-- A capital ASCII letter as a small one, any other character as itself. -/
def lowerAscii (c : Char) : Char :=
  if 'A' ≤ c ∧ c ≤ 'Z' then Char.ofNat (c.toNat + 32) else c

/-- A coefficient times a power of ten. -/
structure Decimal where
  /-- The coefficient. -/
  coefficient : Nat
  /-- The power of ten. -/
  exponent : Int
  deriving DecidableEq

namespace Decimal

/-- The number of decimal digits of a positive number, and one for zero. -/
def width (n : Nat) : Nat := (Nat.toDigits 10 n).length

/-! ## Reading -/

/-- An exponent with its mark, or nothing at all. -/
def readExponent? : List Char → Option Int
  | [] => some 0
  | c :: cs =>
    if c = 'e' ∨ c = 'E' then
      match cs with
      | '-' :: ds => if ds ≠ [] ∧ ds.all isDigit then some (-(digitsValue ds : Int)) else none
      | '+' :: ds => if ds ≠ [] ∧ ds.all isDigit then some (digitsValue ds) else none
      | ds => if ds ≠ [] ∧ ds.all isDigit then some (digitsValue ds) else none
    else none

/-- Digits, a point and digits, and an exponent.  Either row of digits may be
missing, but not both, and so may the point with the digits behind it. -/
def read? (cs : List Char) : Option Decimal :=
  let whole := cs.takeWhile isDigit
  let rest := cs.dropWhile isDigit
  let fraction := match rest with
    | '.' :: ds => ds.takeWhile isDigit
    | _ => []
  let rest := match rest with
    | '.' :: ds => ds.dropWhile isDigit
    | ds => ds
  if whole = [] ∧ fraction = [] then none
  else do
    let exponent ← readExponent? rest
    some ⟨digitsValue (whole ++ fraction), exponent - fraction.length⟩

end Decimal

namespace Binary64

/-! ## The nearest number -/

/-- The numerator and the denominator of a decimal. -/
def ratioOf (d : Decimal) : Nat × Nat :=
  if 0 ≤ d.exponent then (d.coefficient * Nat.pow 10 d.exponent.toNat, 1)
  else (d.coefficient, Nat.pow 10 (-d.exponent).toNat)

/-- The number nearest to a decimal.  A decimal of `10 ^ 400` or more is infinite
and one below `10 ^ -400` is zero, which spares the powers of ten. -/
def ofDecimal (negative : Bool) (d : Decimal) : Binary64 :=
  if d.coefficient = 0 ∨ d.exponent + Decimal.width d.coefficient < -400 then
    ofRatio negative 0 1
  else if 400 < d.exponent then .infinite negative
  else ofRatio negative (ratioOf d).1 (ratioOf d).2

/-! ## Texts -/

/-- The names of an infinity. -/
def infinityNames : List String := ["inf", "infinity"]

/-- A number without its sign.  The letters of a name may be capital. -/
def ofUnsigned? (negative : Bool) (cs : List Char) : Option Binary64 :=
  let name := String.ofList (cs.map lowerAscii)
  if name ∈ infinityNames then some (.infinite negative)
  else if name = "nan" then some .nan
  else (Decimal.read? cs).map (ofDecimal negative)

/-- The number that some characters write, if they write one. -/
def ofChars? : List Char → Option Binary64
  | '-' :: cs => ofUnsigned? true cs
  | '+' :: cs => ofUnsigned? false cs
  | cs => ofUnsigned? false cs

/-- The number that a text writes, if it writes one. -/
def ofText? (s : String) : Option Binary64 := ofChars? s.toList

example : ofText? "0.5" = some (1 / 2) := by decide +kernel
example : ofText? ".5e1" = some 5 ∧ ofText? "1." = some 1 := by decide +kernel
example : ofText? "-0" = some (-0) ∧ ofText? "-Inf" = some (.infinite true) := by decide +kernel
example : ofText? "1e400" = some (.infinite false) := by decide +kernel
example : ofText? "1_0" = none ∧ ofText? "." = none ∧ ofText? "" = none := by decide +kernel
example : ofText? "1e" = none ∧ ofText? "e5" = none ∧ ofText? "+" = none := by decide +kernel

end Binary64

end Argumentation
