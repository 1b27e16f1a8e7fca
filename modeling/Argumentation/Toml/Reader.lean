import Argumentation.Toml.Table
import Argumentation.Toml.Text

/-!
# Reading TOML

A document is a row of lines.  A line holds a field, the header of a table or
nothing, and may end in a comment.  `parse?` reads a whole document into the
fields of its outermost table.
-/

namespace Argumentation.Toml

/-! ## Comments and line ends -/

/-- What stands behind a comment, if there is one in front, and everything
otherwise. -/
def skipComment : List Char → List Char
  | '#' :: cs => cs.dropWhile isPlain
  | cs => cs

/-- What stands behind the blanks, the comment and the end of a line.  The end of
the document ends a line too. -/
def endOfLine? (cs : List Char) : Option (List Char) :=
  match skipComment (skipSpace cs) with
  | [] => some []
  | cs => lineEnd? cs

/-- What stands behind blanks, comments and line ends.  A comment has to be ended
by a line end. -/
def skipLines? : Nat → List Char → Option (List Char)
  | 0, _ => none
  | steps + 1, cs =>
    match skipSpace cs with
    | '#' :: cs => (lineEnd? (cs.dropWhile isPlain)).bind (skipLines? steps)
    | cs =>
      match lineEnd? cs with
      | some rest => skipLines? steps rest
      | none => some cs

/-! ## Numbers -/

/-- Whether a character is one of the digits up to seven. -/
def isOctal (c : Char) : Bool := '0' ≤ c && c ≤ '7'

/-- Whether a character is one of the digits up to one. -/
def isBinary (c : Char) : Bool := c == '0' || c == '1'

/-- Whether a character is a hexadecimal digit. -/
def isHex (c : Char) : Bool := (hexValue? c).isSome

/-- Digits of a kind, which underscores may part.  The digits come without the
underscores. -/
def readDigits? (kind : Char → Bool) : List Char → Option (List Char × List Char)
  | [] => none
  | c :: cs => if kind c then some (go c cs) else none
where
  /-- The digits from a first one on. -/
  go (first : Char) : List Char → List Char × List Char
    | '_' :: d :: cs =>
      if kind d then (first :: (go d cs).1, (go d cs).2) else ([first], '_' :: d :: cs)
    | d :: cs => if kind d then (first :: (go d cs).1, (go d cs).2) else ([first], d :: cs)
    | [] => ([first], [])

/-- An integer, if 64 bits hold it. -/
def integer? (n : Int) : Option Toml :=
  if Int64.minValue.toInt ≤ n ∧ n ≤ Int64.maxValue.toInt then some (.integer n) else none

/-- An integer to a base whose mark has been read. -/
def readBased? (kind : Char → Bool) (base : Nat) (cs : List Char) : Option (Toml × List Char) := do
  let (digits, rest) ← readDigits? kind cs
  let values ← digits.mapM hexValue?
  let v ← integer? (values.foldl (fun n d => base * n + d) 0 : Nat)
  some (v, rest)

/-- The sign in front: what it is and what stands behind. -/
def readSign : List Char → Option Char × List Char
  | '+' :: cs => (some '+', cs)
  | '-' :: cs => (some '-', cs)
  | cs => (none, cs)

/-- The digits before the point.  Only a lone zero begins with a zero. -/
def readWhole? : List Char → Option (List Char × List Char)
  | '0' :: cs => some (['0'], cs)
  | cs => readDigits? isDigit cs

/-- The digits behind a point, if there is one. -/
def readFraction? : List Char → Option (List Char × List Char)
  | '.' :: cs => do
    let (digits, rest) ← readDigits? isDigit cs
    some ('.' :: digits, rest)
  | cs => some ([], cs)

/-- The exponent with its mark, if there is one. -/
def readExponent? : List Char → Option (List Char × List Char)
  | c :: cs =>
    if c = 'e' ∨ c = 'E' then do
      let (sign, rest) := readSign cs
      let (digits, rest) ← readDigits? isDigit rest
      some ('e' :: sign.toList ++ digits, rest)
    else some ([], c :: cs)
  | [] => some ([], [])

/-- A number in decimal digits.  One with a point or an exponent is a
floating-point number and must not be the positive infinity. -/
def readDecimal? (cs : List Char) : Option (Toml × List Char) := do
  let (sign, rest) := readSign cs
  let (whole, rest) ← readWhole? rest
  let (fraction, rest) ← readFraction? rest
  let (exponent, rest) ← readExponent? rest
  if fraction = [] ∧ exponent = [] then do
    let n : Int := digitsValue whole
    let v ← integer? (if sign = some '-' then -n else n)
    some (v, rest)
  else do
    let x ← Binary64.ofChars? (sign.toList ++ whole ++ fraction ++ exponent)
    if x = .infinite false then none else some (.float x, rest)

/-- A number: a name with or without a sign, an integer to a base, or decimal
digits. -/
def readNumber? (cs : List Char) : Option (Toml × List Char) :=
  let (sign, rest) := readSign cs
  match rest with
  | 'i' :: 'n' :: 'f' :: rest => some (.float (.infinite (sign == some '-')), rest)
  | 'n' :: 'a' :: 'n' :: rest => some (.float .nan, rest)
  | _ =>
    match cs with
    | '0' :: 'x' :: rest => readBased? isHex 16 rest
    | '0' :: 'o' :: rest => readBased? isOctal 8 rest
    | '0' :: 'b' :: rest => readBased? isBinary 2 rest
    | _ => readDecimal? cs

/-! ## Dates and times -/

/-- A number of exactly two digits. -/
def readTwo? : List Char → Option (Nat × List Char)
  | a :: b :: cs => if isDigit a && isDigit b then some (digitsValue [a, b], cs) else none
  | _ => none

/-- What stands behind a character that has to be there. -/
def expect? (c : Char) : List Char → Option (List Char)
  | d :: cs => if c = d then some cs else none
  | [] => none

/-- The days of a month. -/
def daysOf (year month : Nat) : Nat :=
  if month = 2 then if year % 4 = 0 ∧ (year % 100 ≠ 0 ∨ year % 400 = 0) then 29 else 28
  else if month = 4 ∨ month = 6 ∨ month = 9 ∨ month = 11 then 30
  else 31

/-- What stands behind a date. -/
def skipDate? : List Char → Option (List Char)
  | a :: b :: c :: d :: '-' :: cs => do
    if [a, b, c, d].all isDigit then
      let (month, rest) ← readTwo? cs
      let rest ← expect? '-' rest
      let (day, rest) ← readTwo? rest
      if 1 ≤ month ∧ month ≤ 12 ∧ 1 ≤ day ∧ day ≤ daysOf (digitsValue [a, b, c, d]) month then
        some rest
      else none
    else none
  | _ => none

/-- What stands behind the parts of a second, if there are some. -/
def skipSubsecond? : List Char → Option (List Char)
  | '.' :: cs => if cs.takeWhile isDigit = [] then none else some (cs.dropWhile isDigit)
  | cs => some cs

/-- What stands behind a time of day. -/
def skipClock? (cs : List Char) : Option (List Char) := do
  let (hour, rest) ← readTwo? cs
  let rest ← expect? ':' rest
  let (minute, rest) ← readTwo? rest
  let rest ← expect? ':' rest
  let (second, rest) ← readTwo? rest
  if hour ≤ 23 ∧ minute ≤ 59 ∧ second ≤ 60 then skipSubsecond? rest else none

/-- What stands behind the distance from the standard time, if it is given. -/
def skipOffset? : List Char → Option (List Char)
  | 'Z' :: cs => some cs
  | 'z' :: cs => some cs
  | c :: cs =>
    if c = '+' ∨ c = '-' then do
      let (hour, rest) ← readTwo? cs
      let rest ← expect? ':' rest
      let (minute, rest) ← readTwo? rest
      if hour ≤ 23 ∧ minute ≤ 59 then some rest else none
    else some (c :: cs)
  | [] => some []

/-- Whether a date begins here. -/
def startsDate (cs : List Char) : Bool :=
  match cs with
  | a :: b :: c :: d :: '-' :: _ => [a, b, c, d].all isDigit
  | _ => false

/-- Whether a time of day begins here. -/
def startsClock (cs : List Char) : Bool :=
  match cs with
  | a :: b :: ':' :: _ => isDigit a && isDigit b
  | _ => false

/-- What stands behind a date and the time of day that follows it, if one does. -/
def skipTime? (cs : List Char) : Option (List Char) :=
  if startsDate cs then do
    let rest ← skipDate? cs
    match rest with
    | c :: d :: ds =>
      if c = 'T' ∨ c = 't' ∨ (c = ' ' ∧ isDigit d) then (skipClock? (d :: ds)).bind skipOffset?
      else some rest
    | _ => some rest
  else skipClock? cs

/-- A date, a time of day or both. -/
def readTime? (cs : List Char) : Option (Toml × List Char) := do
  let rest ← skipTime? cs
  some (.time (String.ofList (cs.take (cs.length - rest.length))), rest)

/-! ## Values -/

mutual

/-- The value in front, read in a number of steps and within a depth. -/
def readValue? : Nat → Nat → List Char → Option (Toml × List Char)
  | 0, _, _ => none
  | steps + 1, depth, cs =>
    match cs with
    | '[' :: rest =>
      if depth = 0 then none
      else do
        let (items, rest) ← readItems? steps (depth - 1) rest
        some (.array items, rest)
    | '\x7b' :: rest =>
      if depth = 0 then none
      else
        match skipSpace rest with
        | '\x7d' :: rest => some (.table .braces [], rest)
        | rest => do
          let (fields, rest) ← readFields? steps (depth - 1) [] rest
          some (.table .braces fields, rest)
    | 't' :: 'r' :: 'u' :: 'e' :: rest => some (.bool true, rest)
    | 'f' :: 'a' :: 'l' :: 's' :: 'e' :: rest => some (.bool false, rest)
    | c :: _ =>
      if c = '"' ∨ c = '\'' then do
        let (s, rest) ← readText? cs
        some (.text (String.ofList s), rest)
      else if startsDate cs || startsClock cs then readTime? cs
      else readNumber? cs
    | [] => none

/-- The items of a list up to its end.  A comma may stand behind the last one. -/
def readItems? : Nat → Nat → List Char → Option (List Toml × List Char)
  | 0, _, _ => none
  | steps + 1, depth, cs => do
    let rest ← skipLines? (cs.length + 1) cs
    match rest with
    | ']' :: rest => some ([], rest)
    | rest => do
      let (v, rest) ← readValue? steps depth rest
      let rest ← skipLines? (rest.length + 1) rest
      match rest with
      | ']' :: rest => some ([v], rest)
      | ',' :: rest => do
        let (vs, rest) ← readItems? steps depth rest
        some (v :: vs, rest)
      | _ => none

/-- The fields of a table in braces up to its end, added to the fields that were
read before. -/
def readFields? : Nat → Nat → Fields → List Char → Option (Fields × List Char)
  | 0, _, _, _ => none
  | steps + 1, depth, fields, cs => do
    let ((path, name), rest) ← readKey? cs
    match rest with
    | '=' :: rest => do
      let (v, rest) ← readValue? steps depth (skipSpace rest)
      let (_, fields) ← addField path name v .braces fields
      match skipSpace rest with
      | '\x7d' :: rest => some (fields, rest)
      | ',' :: rest => readFields? steps depth fields rest
      | _ => none
    | _ => none

end

/-! ## Documents -/

/-- The path of the current header and the fields of the document so far. -/
structure Draft where
  /-- The names that lead to the table of the current header. -/
  header : List String
  /-- The fields of the outermost table. -/
  fields : Fields

/-- The line of a field. -/
def readField? (d : Draft) (cs : List Char) : Option (Draft × List Char) := do
  let ((path, name), rest) ← readKey? cs
  match rest with
  | '=' :: rest => do
    let rest := skipSpace rest
    let (v, rest) ← readValue? (2 * rest.length + 2) depthLimit rest
    let fields ← addFieldAt d.header path name v d.fields
    some (⟨d.header, fields⟩, rest)
  | _ => none

/-- The line of a header whose opening brackets have been read. -/
def readHeader? (rows : Bool) (d : Draft) (cs : List Char) : Option (Draft × List Char) := do
  let ((path, name), rest) ← readKey? cs
  let rest ← expect? ']' rest
  let rest ← if rows then expect? ']' rest else some rest
  let fields ← if rows then openRow path name d.fields else openTable path name d.fields
  some (⟨path ++ [name], fields⟩, rest)

/-- The lines of a document, read in a number of steps. -/
def readLines? : Nat → Draft → List Char → Option Fields
  | 0, _, _ => none
  | steps + 1, d, cs => do
    let cs := skipSpace cs
    let (d, rest) ← match cs with
      | '[' :: '[' :: rest => readHeader? true d rest
      | '[' :: rest => readHeader? false d rest
      | [] => some (d, [])
      | c :: _ =>
        if c = '#' ∨ c = '\n' ∨ c = '\r' then some (d, cs) else readField? d cs
    let rest ← endOfLine? rest
    match rest with
    | [] => some d.fields
    | rest => readLines? steps d rest

/-- The fields of the outermost table of a document.  A mark of the byte order may
stand in front. -/
def parse? (s : String) : Option Fields :=
  let cs := match s.toList with
    | '\ufeff' :: cs => cs
    | cs => cs
  readLines? (cs.length + 1) ⟨[], []⟩ cs

end Argumentation.Toml
