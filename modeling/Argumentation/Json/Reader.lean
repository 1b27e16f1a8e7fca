import Argumentation.Json.Document

/-!
# Reading JSON

A text is read character by character into the document that it spells.  Blanks
may stand around every token.  `parse?` reads a whole text and allows nothing
behind the document.

Reading a value or the rest of a list takes one step, and every two steps take a
character away, so twice the length of a text is steps enough for it.
-/

namespace Argumentation.Json

/-! ## Tokens -/

/-- Whether a character may stand between tokens. -/
def isFiller (c : Char) : Bool := c == ' ' || c == '\n' || c == '\t' || c == '\r'

/-- The characters from the next token on. -/
def skipFiller (cs : List Char) : List Char := cs.dropWhile isFiller

/-- The value of a hexadecimal digit. -/
def hexValue? (c : Char) : Option Nat :=
  if '0' ≤ c ∧ c ≤ '9' then some (c.toNat - '0'.toNat)
  else if 'a' ≤ c ∧ c ≤ 'f' then some (c.toNat - 'a'.toNat + 10)
  else if 'A' ≤ c ∧ c ≤ 'F' then some (c.toNat - 'A'.toNat + 10)
  else none

/-- The code unit of four hexadecimal digits. -/
def codeUnit? (a b c d : Char) : Option Nat := do
  some (4096 * (← hexValue? a) + 256 * (← hexValue? b) + 16 * (← hexValue? c) + (← hexValue? d))

/-- A piece of a text between quotes. -/
inductive Piece where
  /-- A character. -/
  | char (c : Char)
  /-- One of the two halves of a character beyond the first 65536. -/
  | half (unit : Nat)
  deriving DecidableEq

/-- The piece that a code unit stands for. -/
def Piece.ofUnit (n : Nat) : Piece :=
  if 0xD800 ≤ n ∧ n ≤ 0xDFFF then .half n else .char (Char.ofNat n)

/-- The characters of pieces, if the halves come in pairs. -/
def joinPieces? : List Piece → Option (List Char)
  | [] => some []
  | .char c :: ps => (joinPieces? ps).map (c :: ·)
  | .half high :: .half low :: ps =>
    if high < 0xDC00 ∧ 0xDC00 ≤ low then
      (joinPieces? ps).map (Char.ofNat (0x10000 + (high - 0xD800) * 0x400 + (low - 0xDC00)) :: ·)
    else none
  | .half _ :: _ => none

/-- The character that a letter behind a backslash stands for. -/
def escaped? : Char → Option Char
  | '"' => some '"'
  | '\\' => some '\\'
  | '/' => some '/'
  | 'b' => some '\x08'
  | 'f' => some '\x0c'
  | 'n' => some '\n'
  | 'r' => some '\r'
  | 't' => some '\t'
  | _ => none

/-- The pieces up to the closing quote and what stands behind it. -/
def readPieces? : List Char → Option (List Piece × List Char)
  | [] => none
  | '"' :: cs => some ([], cs)
  | '\\' :: 'u' :: a :: b :: c :: d :: cs => do
    let unit ← codeUnit? a b c d
    let (pieces, rest) ← readPieces? cs
    some (Piece.ofUnit unit :: pieces, rest)
  | '\\' :: c :: cs => do
    let e ← escaped? c
    let (pieces, rest) ← readPieces? cs
    some (.char e :: pieces, rest)
  | c :: cs =>
    if c.toNat < 32 ∨ c = '\\' then none
    else do
      let (pieces, rest) ← readPieces? cs
      some (.char c :: pieces, rest)

/-- A text whose opening quote has been read. -/
def readText? (cs : List Char) : Option (Option String × List Char) := do
  let (pieces, rest) ← readPieces? cs
  some ((joinPieces? pieces).map String.ofList, rest)

/-! ## Numerals -/

/-- The digits in front and what stands behind them. -/
def spanDigits (cs : List Char) : List Char × List Char :=
  (cs.takeWhile isDigit, cs.dropWhile isDigit)

/-- The exponent in front, if there is one. -/
def readExponent? : List Char → Option (Option Int × List Char)
  | c :: cs =>
    if c = 'e' ∨ c = 'E' then
      let (negative, cs) := match cs with
        | '-' :: ds => (true, ds)
        | '+' :: ds => (false, ds)
        | ds => (false, ds)
      let (digits, rest) := spanDigits cs
      let n : Int := digitsValue digits
      if digits = [] then none else some (some (if negative then -n else n), rest)
    else some (none, c :: cs)
  | [] => some (none, [])

/-- The digits behind a point in front, if there is one. -/
def readFraction? : List Char → Option (Option (List Char) × List Char)
  | '.' :: cs =>
    let (digits, rest) := spanDigits cs
    if digits = [] then none else some (some digits, rest)
  | cs => some (none, cs)

/-- The numeral in front.  Only a lone zero begins with a zero. -/
def readNumeral? (cs : List Char) : Option (Numeral × List Char) := do
  let (negative, cs) := match cs with
    | '-' :: ds => (true, ds)
    | ds => (false, ds)
  let (whole, rest) := spanDigits cs
  if whole = [] ∨ (whole.head? = some '0' ∧ whole ≠ ['0']) then none
  else do
    let (fraction, rest) ← readFraction? rest
    let (exponent, rest) ← readExponent? rest
    some (⟨negative, whole, fraction, exponent⟩, rest)

/-! ## Documents -/

mutual

/-- The document in front, read in a number of steps. -/
def readDocument? : Nat → List Char → Option (Document × List Char)
  | 0, _ => none
  | steps + 1, cs =>
    match skipFiller cs with
    | 'n' :: 'u' :: 'l' :: 'l' :: rest => some (.null, rest)
    | 't' :: 'r' :: 'u' :: 'e' :: rest => some (.bool true, rest)
    | 'f' :: 'a' :: 'l' :: 's' :: 'e' :: rest => some (.bool false, rest)
    | '"' :: rest => do
      let (s, rest) ← readText? rest
      some (.text s, rest)
    | '[' :: rest =>
      match skipFiller rest with
      | ']' :: rest => some (.array [], rest)
      | rest => do
        let (items, rest) ← readItems? steps rest
        some (.array items, rest)
    | '\x7b' :: rest =>
      match skipFiller rest with
      | '\x7d' :: rest => some (.object [], rest)
      | rest => do
        let (fields, rest) ← readFields? steps rest
        some (.object fields, rest)
    | rest => do
      let (n, rest) ← readNumeral? rest
      some (.numeral n, rest)

/-- The items of a list up to its end. -/
def readItems? : Nat → List Char → Option (List Document × List Char)
  | 0, _ => none
  | steps + 1, cs => do
    let (d, rest) ← readDocument? steps cs
    match skipFiller rest with
    | ']' :: rest => some ([d], rest)
    | ',' :: rest => do
      let (ds, rest) ← readItems? steps rest
      some (d :: ds, rest)
    | _ => none

/-- The fields of an object up to its end. -/
def readFields? : Nat → List Char → Option (List (Option String × Document) × List Char)
  | 0, _ => none
  | steps + 1, cs =>
    match skipFiller cs with
    | '"' :: rest => do
      let (name, rest) ← readText? rest
      match skipFiller rest with
      | ':' :: rest => do
        let (d, rest) ← readDocument? steps rest
        match skipFiller rest with
        | '\x7d' :: rest => some ([(name, d)], rest)
        | ',' :: rest => do
          let (fs, rest) ← readFields? steps rest
          some ((name, d) :: fs, rest)
        | _ => none
      | _ => none
    | _ => none

end

/-- The document that a whole text spells. -/
def parseChars? (cs : List Char) : Option Document := do
  let (d, rest) ← readDocument? (2 * cs.length + 2) cs
  if skipFiller rest = [] then some d else none

/-- The document that a whole text spells. -/
def parse? (s : String) : Option Document := parseChars? s.toList

end Argumentation.Json
