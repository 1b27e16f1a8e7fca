import Argumentation.Number.Layout
import Argumentation.Toml.Table

/-!
# Writing TOML

A table is written with its single values first and then its tables, each under a
header of its own with an empty line in front.  A text is written as plainly as it
can be: in quotes without any escape, between single quotes, over many lines, and
with escapes only if nothing else will do.
-/

namespace Argumentation

/-- Numbers in TOML texts: a point in every number and never an exponent. -/
def NumberLayout.toml : NumberLayout where
  tie := .up
  isPositional _ := true
  keepPoint := true
  plusSign := false
  nan := "nan"

namespace Toml

/-! ## Texts -/

/-- The length of the longest row of a character. -/
def longestRow (c : Char) (cs : List Char) : Nat := (go 0 cs).foldl max 0
where
  /-- The lengths of the rows, the first of which has been met in part. -/
  go (n : Nat) : List Char → List Nat
    | [] => [n]
    | d :: ds => if d = c then go (n + 1) ds else n :: go 0 ds

/-- Whether a character has to be escaped wherever it stands: a control that is
neither a tab nor a line feed. -/
def isControl (c : Char) : Bool := c ≠ '\t' && c ≠ '\n' && (c.toNat < 32 || c.toNat = 127)

/-- How a text is written. -/
inductive Style where
  /-- Between double quotes, with escapes. -/
  | basic
  /-- Between single quotes, without escapes. -/
  | literal
  /-- Over many lines between double quotes, with escapes. -/
  | basicLines
  /-- Over many lines between single quotes, without escapes. -/
  | literalLines
  deriving DecidableEq

/-- The plainest style of a text. -/
def styleOf (cs : List Char) : Style :=
  let controls := cs.any isControl
  let backslash := cs.contains '\\'
  let newline := cs.contains '\n'
  let double := longestRow '"' cs
  let single := longestRow '\'' cs
  if !controls && !backslash && double == 0 && !newline then .basic
  else if !controls && single == 0 && !newline then .literal
  else if !controls && !backslash && double ≤ 2 then .basicLines
  else if !controls && single ≤ 2 then .literalLines
  else if newline then .basicLines
  else .basic

/-- A hexadecimal digit in upper case. -/
def upperHex (n : Nat) : Char := if n < 10 then Nat.digitChar n else Char.ofNat ('A'.toNat + n - 10)

/-- A character between double quotes.  Quotes and line feeds are looked after by the
caller. -/
def escapeChar (c : Char) : List Char :=
  if c = '\x08' then ['\\', 'b']
  else if c = '\t' then ['\\', 't']
  else if c = '\x0c' then ['\\', 'f']
  else if c = '\r' then ['\\', 'r']
  else if c = '\\' then ['\\', '\\']
  else if isControl c then
    ['\\', 'u', '0', '0', upperHex (c.toNat / 16), upperHex (c.toNat % 16)]
  else [c]

/-- Characters between double quotes on one line. -/
def escapeLine (cs : List Char) : List Char :=
  cs.flatMap fun c =>
    if c = '"' then ['\\', '"'] else if c = '\n' then ['\\', 'n'] else escapeChar c

/-- Characters between double quotes over many lines, behind a number of quotes that
stand as they are.  The third quote of a row is escaped. -/
def escapeLines (quotes : Nat) : List Char → List Char
  | [] => []
  | c :: cs =>
    if c = '"' then
      if quotes < 2 then '"' :: escapeLines (quotes + 1) cs else '\\' :: '"' :: escapeLines 0 cs
    else if c = '\n' then '\n' :: escapeLines 0 cs
    else escapeChar c ++ escapeLines 0 cs

/-- The line feed behind the opening quotes of a text over many lines, if it has
more than one. -/
def leadingLine (cs : List Char) : List Char := if cs.contains '\n' then ['\n'] else []

/-- A text in a style. -/
def styledChars (cs : List Char) : Style → List Char
  | .basic => '"' :: escapeLine cs ++ ['"']
  | .literal => '\'' :: cs ++ ['\'']
  | .basicLines => ['"', '"', '"'] ++ leadingLine cs ++ escapeLines 0 cs ++ ['"', '"', '"']
  | .literalLines => ['\'', '\'', '\''] ++ leadingLine cs ++ cs ++ ['\'', '\'', '\'']

/-- A text in its plainest style. -/
def textChars (s : String) : List Char := styledChars s.toList (styleOf s.toList)

/-! ## Tables -/

/-- A single value, as configurations have them. -/
inductive Scalar where
  /-- A text. -/
  | text (s : String)
  /-- A natural number. -/
  | natural (n : Nat)
  /-- A floating-point number. -/
  | float (x : Binary64)

/-- The text of a single value.  An integer must fit 63 bits. -/
def Scalar.write? : Scalar → Option String
  | .text s => some (String.ofList (textChars s))
  | .natural n => if n ≤ Int64.maxValue.toInt then some (Nat.repr n) else none
  | .float x => some (NumberLayout.toml.write x)

/-- A table of single values under a header. -/
structure Section where
  /-- The names of the header. -/
  header : List String
  /-- The single values. -/
  fields : List (String × Scalar)

/-- The text of a table of single values. -/
def Section.write? (s : Section) : Option String := do
  let lines ← s.fields.mapM fun f => (f.2.write?).map fun v => f.1 ++ " = " ++ v ++ "\n"
  some ("[" ++ String.intercalate "." s.header ++ "]\n" ++ String.join lines)

/-- The text of tables with an empty line between them. -/
def writeSections? (sections : List Section) : Option String :=
  (sections.mapM Section.write?).map (String.intercalate "\n")

example : textChars "both ' and \" \\ " = "'''both ' and \" \\ '''".toList := by decide +kernel
example : textChars "a\tb" = "\"a\\tb\"".toList := by decide +kernel
example : textChars "\"q\" \n" = "\"\"\"\n\"q\" \n\"\"\"".toList := by decide +kernel

end Toml

end Argumentation
