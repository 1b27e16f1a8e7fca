import Argumentation.Text.CaseTable
import Argumentation.Text.Cased

/-!
# Lower case

Every capital letter is replaced by its small letter.  Two capitals need more
than a table.  The dotted capital I becomes an i with a combining dot, two
characters.  The capital sigma becomes the final sigma at the end of a word of two
letters or more and the plain small sigma elsewhere.
-/

namespace Argumentation.Text

/-! ## Single characters -/

/-- The small letter of a single capital, and any other character itself. -/
def lowerChar (c : Char) : Char :=
  if c.toNat < 128 then
    if 'A' ≤ c ∧ c ≤ 'Z' then Char.ofNat (c.toNat + 32) else c
  else
    match caseStretches.findSome? (·.lower? c.toNat) with
    | some n => Char.ofNat n
    | none => c

/-! ## The final sigma -/

/-- Whether the first character that case does not ignore is a cased one. -/
def startsCased (cs : List Char) : Bool :=
  match cs.dropWhile isCaseIgnorable with
  | c :: _ => isCased c
  | [] => false

/-- The small letter of a capital sigma between the characters before it, the
nearest first, and those after it. -/
def lowerSigma (before after : List Char) : Char :=
  if startsCased before && !startsCased after then 'ς' else 'σ'

/-! ## Texts -/

/-- The lower-case form of the characters that stand after the given ones, of
which the nearest comes first. -/
def lowerFrom (before : List Char) : List Char → List Char
  | [] => []
  | c :: cs =>
    if c = 'Σ' then lowerSigma before cs :: lowerFrom (c :: before) cs
    else if c = 'İ' then 'i' :: '\u0307' :: lowerFrom (c :: before) cs
    else lowerChar c :: lowerFrom (c :: before) cs

/-- The lower-case form of a text. -/
def lowercase (s : String) : String := String.ofList (lowerFrom [] s.toList)

@[simp] theorem toList_lowercase (s : String) : (lowercase s).toList = lowerFrom [] s.toList := by
  simp [lowercase]

example : lowercase "ÀB" = "àb" := by decide +kernel
example : lowercase "ΟΔΟΣ ΣΑΣ" = "οδος σας" := by decide +kernel
example : lowercase "İΣ." = "i̇ς." := by decide +kernel

end Argumentation.Text
