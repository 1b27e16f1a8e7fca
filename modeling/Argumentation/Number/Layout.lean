import Argumentation.Number.Shortest

/-!
# Writing numbers

A number is written from the digits of its shortest decimal and the place of the
point.  What differs between the formats that hold numbers is gathered in a
`NumberLayout`: when an exponent is written, whether a whole number shows a point,
how the exponent is marked, which of two equally short texts is taken, and how
what is no number and the infinities are called.

`NumberLayout.plain` is the layout of the description notation.  It never writes
an exponent.
-/

namespace Argumentation

/-! ## Digits and the point -/

/-- Digits `d₁ d₂ …` and a place of the point that stand for
`0.d₁d₂… * 10 ^ point`. -/
structure DigitRow where
  /-- The digits, the first of which is not zero. -/
  digits : List Char
  /-- The place of the point, counted from the front of the digits. -/
  point : Int

/-- Digits without the zeros at their end. -/
def dropTrailingZeros (digits : List Char) : List Char :=
  (digits.reverse.dropWhile (· == '0')).reverse

/-- The digits of a decimal. -/
def Decimal.row (d : Decimal) : DigitRow :=
  let digits := Nat.toDigits 10 d.coefficient
  ⟨dropTrailingZeros digits, d.exponent + digits.length⟩

/-- Digits with the point in its place.  Zeros fill the gap between the two. -/
def DigitRow.positional (r : DigitRow) (keepPoint : Bool) : List Char :=
  if r.point ≤ 0 then '0' :: '.' :: List.replicate (-r.point).toNat '0' ++ r.digits
  else if (r.digits.length : Int) ≤ r.point then
    r.digits ++ List.replicate (r.point - r.digits.length).toNat '0' ++
      if keepPoint then ['.', '0'] else []
  else r.digits.take r.point.toNat ++ '.' :: r.digits.drop r.point.toNat

/-- Digits with the point behind the first one and an exponent. -/
def DigitRow.scientific (r : DigitRow) (plusSign : Bool) : List Char :=
  let exponent := r.point - 1
  let sign := if exponent < 0 then ['-'] else if plusSign then ['+'] else []
  let digits := match r.digits with
    | d :: e :: ds => d :: '.' :: e :: ds
    | ds => ds
  digits ++ 'e' :: sign ++ Nat.toDigits 10 exponent.natAbs

/-! ## Layouts -/

/-- How a format writes numbers. -/
structure NumberLayout where
  /-- Which of two equally short and equally near decimals is taken. -/
  tie : Tie
  /-- Whether a number with this exponent is written without it. -/
  isPositional : Int → Bool
  /-- Whether a whole number written without an exponent ends in `.0`. -/
  keepPoint : Bool
  /-- Whether a positive exponent has a sign. -/
  plusSign : Bool
  /-- The name of what is no number. -/
  nan : String

/-- The text of a number. -/
def NumberLayout.write (l : NumberLayout) : Binary64 → String
  | .nan => l.nan
  | .infinite s => if s then "-inf" else "inf"
  | .finite s units _ =>
    let row := if units = 0 then ⟨['0'], 1⟩ else (Decimal.shortest l.tie units).row
    let text := if units = 0 ∨ l.isPositional (row.point - 1) then row.positional l.keepPoint
      else row.scientific l.plusSign
    String.ofList (if s then '-' :: text else text)

/-- Numbers in descriptions and messages: never an exponent, and no point in a
whole number. -/
def NumberLayout.plain : NumberLayout where
  tie := .up
  isPositional _ := true
  keepPoint := false
  plusSign := false
  nan := "NaN"

/-- Numbers in listings: a point in every number without an exponent, and an
exponent below `0.0001` and from `10 ^ 16` on. -/
def NumberLayout.listing : NumberLayout where
  tie := .up
  isPositional e := -4 ≤ e && e ≤ 15
  keepPoint := true
  plusSign := false
  nan := "NaN"

/-- The plain text of a number. -/
def Binary64.toText (x : Binary64) : String := NumberLayout.plain.write x

example : (1 / 2 : Binary64).toText = "0.5" ∧ (120 : Binary64).toText = "120" := by decide +kernel
example : (-0 : Binary64).toText = "-0" := by decide +kernel
example : (Binary64.ofText? "1e-7").map (·.toText) = some "0.0000001" := by decide +kernel
example : NumberLayout.listing.write 1 = "1.0" := by decide +kernel
example : (Binary64.ofText? "0.00001").map NumberLayout.listing.write = some "1e-5" := by
  decide +kernel
example : (Binary64.ofText? "12e15").map NumberLayout.listing.write = some "1.2e16" := by
  decide +kernel

end Argumentation
