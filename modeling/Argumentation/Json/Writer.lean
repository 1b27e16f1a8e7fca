import Argumentation.Json.Value
import Argumentation.Number.Layout

/-!
# Writing JSON

A value is written without any blank, or over many lines with two blanks for
each level.  Only the quote, the backslash and the controls below the space are
escaped.
-/

namespace Argumentation

/-- Numbers in JSON texts: a point in every floating-point number without an
exponent, and a signed exponent below `0.00001` and from `10 ^ 16` on. -/
def NumberLayout.json : NumberLayout where
  tie := .even
  isPositional e := -5 ≤ e && e ≤ 15
  keepPoint := true
  plusSign := true
  nan := "null"

namespace Json

/-! ## Single values -/

/-- A hexadecimal digit in lower case. -/
def hexDigit (n : Nat) : Char := Nat.digitChar n

/-- A character inside quotes. -/
def escapeChar (c : Char) : List Char :=
  if c = '"' then ['\\', '"']
  else if c = '\\' then ['\\', '\\']
  else if c = '\n' then ['\\', 'n']
  else if c = '\r' then ['\\', 'r']
  else if c = '\t' then ['\\', 't']
  else if c = '\x08' then ['\\', 'b']
  else if c = '\x0c' then ['\\', 'f']
  else if c.toNat < 32 then ['\\', 'u', '0', '0', hexDigit (c.toNat / 16), hexDigit (c.toNat % 16)]
  else [c]

/-- A text between quotes. -/
def textChars (s : String) : List Char := '"' :: s.toList.flatMap escapeChar ++ ['"']

/-- The digits of an integer. -/
def integerChars (n : Int) : List Char :=
  if n < 0 then '-' :: Nat.toDigits 10 n.natAbs else Nat.toDigits 10 n.natAbs

/-- A number. -/
def numberChars : Number → List Char
  | .integer n => integerChars n
  | .float x => (NumberLayout.json.write x).toList

/-- A truth value. -/
def boolChars (b : Bool) : List Char :=
  if b then ['t', 'r', 'u', 'e'] else ['f', 'a', 'l', 's', 'e']

/-! ## Without blanks -/

mutual

/-- A value without blanks. -/
def compactChars : Json → List Char
  | .null => ['n', 'u', 'l', 'l']
  | .bool b => boolChars b
  | .number n => numberChars n
  | .text s => textChars s
  | .array [] => ['[', ']']
  | .array (v :: vs) => '[' :: compactChars v ++ compactItems vs
  | .object [] => ['\x7b', '\x7d']
  | .object (f :: fs) => '\x7b' :: textChars f.1 ++ ':' :: compactChars f.2 ++ compactFields fs

/-- The further values of a list and its end. -/
def compactItems : List Json → List Char
  | [] => [']']
  | v :: vs => ',' :: compactChars v ++ compactItems vs

/-- The further fields of an object and its end. -/
def compactFields : List (String × Json) → List Char
  | [] => ['\x7d']
  | f :: fs => ',' :: textChars f.1 ++ ':' :: compactChars f.2 ++ compactFields fs

end

/-- The text of a value without blanks. -/
def compact (v : Json) : String := String.ofList (compactChars v)

/-! ## Over many lines -/

/-- The start of a line at a level. -/
def newLine (level : Nat) : List Char := '\n' :: List.replicate (2 * level) ' '

mutual

/-- A value whose lines stand at a level. -/
def prettyChars (level : Nat) : Json → List Char
  | .null => ['n', 'u', 'l', 'l']
  | .bool b => boolChars b
  | .number n => numberChars n
  | .text s => textChars s
  | .array [] => ['[', ']']
  | .array (v :: vs) =>
    '[' :: newLine (level + 1) ++ prettyChars (level + 1) v ++ prettyItems level vs
  | .object [] => ['\x7b', '\x7d']
  | .object (f :: fs) =>
    '\x7b' :: newLine (level + 1) ++ textChars f.1 ++ ':' :: ' ' :: prettyChars (level + 1) f.2 ++
      prettyFields level fs

/-- The further values of a list and its end. -/
def prettyItems (level : Nat) : List Json → List Char
  | [] => newLine level ++ [']']
  | v :: vs => ',' :: newLine (level + 1) ++ prettyChars (level + 1) v ++ prettyItems level vs

/-- The further fields of an object and its end. -/
def prettyFields (level : Nat) : List (String × Json) → List Char
  | [] => newLine level ++ ['\x7d']
  | f :: fs =>
    ',' :: newLine (level + 1) ++ textChars f.1 ++ ':' :: ' ' :: prettyChars (level + 1) f.2 ++
      prettyFields level fs

end

/-- The text of a value over many lines. -/
def pretty (v : Json) : String := String.ofList (prettyChars 0 v)

example : compact (.object [("a", .array [.natural 1, .null]), ("b", .text "x\n")]) =
    "\x7b\"a\":[1,null],\"b\":\"x\\n\"\x7d" := by decide +kernel
example : pretty (.object [("a", .array [.bool true]), ("b", .array [])]) =
    "\x7b\n  \"a\": [\n    true\n  ],\n  \"b\": []\n\x7d" := by decide +kernel

end Json

end Argumentation
