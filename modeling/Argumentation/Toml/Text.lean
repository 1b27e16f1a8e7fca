import Argumentation.Number.Decimal

/-!
# TOML texts and keys

The four kinds of texts, basic and literal ones on one line and over many, and
the keys that are made of texts and bare words.  Each reader takes the characters
in front and gives what it read with what stands behind.
-/

namespace Argumentation.Toml

/-! ## Characters -/

/-- Whether a character is a blank of a line. -/
def isSpace (c : Char) : Bool := c == ' ' || c == '\t'

/-- The characters from the next one on that is no blank of a line. -/
def skipSpace (cs : List Char) : List Char := cs.dropWhile isSpace

/-- Whether a character may stand in a comment and in a literal text: a tab or any
character that is no control. -/
def isPlain (c : Char) : Bool := c == '\t' || (32 ≤ c.toNat && c.toNat ≠ 127)

/-- What stands behind the end of a line, if the line ends here. -/
def lineEnd? : List Char → Option (List Char)
  | '\n' :: cs => some cs
  | '\r' :: '\n' :: cs => some cs
  | _ => none

/-- What stands behind a line end, if there is one, and everything otherwise. -/
def skipLineEnd (cs : List Char) : List Char := (lineEnd? cs).getD cs

/-- The value of a hexadecimal digit. -/
def hexValue? (c : Char) : Option Nat :=
  if isDigit c then some (digitValue c)
  else if 'a' ≤ c ∧ c ≤ 'f' then some (c.toNat - 'a'.toNat + 10)
  else if 'A' ≤ c ∧ c ≤ 'F' then some (c.toNat - 'A'.toNat + 10)
  else none

/-- The character of a row of hexadecimal digits, if they give one. -/
def codePoint? (digits : List Char) : Option Char := do
  let values ← digits.mapM hexValue?
  let n := values.foldl (fun n d => 16 * n + d) 0
  if n.isValidChar then some (Char.ofNat n) else none

/-! ## Escapes -/

/-- The character that a letter behind a backslash stands for. -/
def escaped? : Char → Option Char
  | 'b' => some '\x08'
  | 't' => some '\t'
  | 'n' => some '\n'
  | 'f' => some '\x0c'
  | 'r' => some '\r'
  | '"' => some '"'
  | '\\' => some '\\'
  | _ => none

/-- The character that stands behind a backslash. -/
def readEscape? : List Char → Option (Char × List Char)
  | 'u' :: cs => if cs.length < 4 then none else (codePoint? (cs.take 4)).map (·, cs.drop 4)
  | 'U' :: cs => if cs.length < 8 then none else (codePoint? (cs.take 8)).map (·, cs.drop 8)
  | c :: cs => (escaped? c).map (·, cs)
  | [] => none

/-! ## Texts -/

/-- A basic text whose opening quote has been read, in a number of steps. -/
def readBasic? : Nat → List Char → Option (List Char × List Char)
  | 0, _ => none
  | _ + 1, [] => none
  | _ + 1, '"' :: cs => some ([], cs)
  | steps + 1, '\\' :: cs => do
    let (c, rest) ← readEscape? cs
    let (s, rest) ← readBasic? steps rest
    some (c :: s, rest)
  | steps + 1, c :: cs =>
    if isPlain c then do
      let (s, rest) ← readBasic? steps cs
      some (c :: s, rest)
    else none

/-- A literal text whose opening quote has been read. -/
def readLiteral? : List Char → Option (List Char × List Char)
  | [] => none
  | '\'' :: cs => some ([], cs)
  | c :: cs =>
    if isPlain c then do
      let (s, rest) ← readLiteral? cs
      some (c :: s, rest)
    else none

/-- The text and the rest when a row of quotes is met inside a text over many
lines.  Three quotes close the text, and up to two more may belong to it. -/
def closing? (quotes : Nat) (rest : List Char) (quote : Char) : Option (List Char × List Char) :=
  if quotes ≤ 5 then some (List.replicate (quotes - 3) quote, rest) else none

/-- Whether a character may stand in the blank that a backslash at the end of a
line takes away. -/
def isFoldable (c : Char) : Bool := isSpace c || c == '\n'

/-- What stands behind the blanks and line ends in front. -/
def skipFold : Nat → List Char → List Char
  | 0, cs => cs
  | steps + 1, cs =>
    let cs := skipSpace cs
    match lineEnd? cs with
    | some rest => skipFold steps rest
    | none => cs

/-- A basic text over many lines whose opening quotes have been read. -/
def readBasicLines? : Nat → List Char → Option (List Char × List Char)
  | 0, _ => none
  | _ + 1, [] => none
  | steps + 1, '"' :: cs =>
    let quotes := (cs.takeWhile (· == '"')).length + 1
    let rest := cs.dropWhile (· == '"')
    if 3 ≤ quotes then closing? quotes rest '"'
    else do
      let (s, rest) ← readBasicLines? steps rest
      some (List.replicate quotes '"' ++ s, rest)
  | steps + 1, '\\' :: cs =>
    match lineEnd? (skipSpace cs) with
    | some rest => readBasicLines? steps (skipFold rest.length rest)
    | none => do
      let (c, rest) ← readEscape? cs
      let (s, rest) ← readBasicLines? steps rest
      some (c :: s, rest)
  | steps + 1, c :: cs =>
    match lineEnd? (c :: cs) with
    | some rest => do
      let (s, rest) ← readBasicLines? steps rest
      some ('\n' :: s, rest)
    | none =>
      if isPlain c then do
        let (s, rest) ← readBasicLines? steps cs
        some (c :: s, rest)
      else none

/-- A literal text over many lines whose opening quotes have been read. -/
def readLiteralLines? : Nat → List Char → Option (List Char × List Char)
  | 0, _ => none
  | _ + 1, [] => none
  | steps + 1, '\'' :: cs =>
    let quotes := (cs.takeWhile (· == '\'')).length + 1
    let rest := cs.dropWhile (· == '\'')
    if 3 ≤ quotes then closing? quotes rest '\''
    else do
      let (s, rest) ← readLiteralLines? steps rest
      some (List.replicate quotes '\'' ++ s, rest)
  | steps + 1, c :: cs =>
    match lineEnd? (c :: cs) with
    | some rest => do
      let (s, rest) ← readLiteralLines? steps rest
      some ('\n' :: s, rest)
    | none =>
      if isPlain c then do
        let (s, rest) ← readLiteralLines? steps cs
        some (c :: s, rest)
      else none

/-- The text in front.  A line end behind three opening quotes does not belong to
it. -/
def readText? : List Char → Option (List Char × List Char)
  | '"' :: '"' :: '"' :: cs => readBasicLines? (cs.length + 1) (skipLineEnd cs)
  | '\'' :: '\'' :: '\'' :: cs => readLiteralLines? (cs.length + 1) (skipLineEnd cs)
  | '"' :: cs => readBasic? (cs.length + 1) cs
  | '\'' :: cs => readLiteral? cs
  | _ => none

/-! ## Keys -/

/-- Whether a character may stand in a bare key. -/
def isBare (c : Char) : Bool :=
  isDigit c || ('a' ≤ c && c ≤ 'z') || ('A' ≤ c && c ≤ 'Z') || c == '-' || c == '_'

/-- One name of a key. -/
def readName? : List Char → Option (String × List Char)
  | '"' :: cs => do
    let (s, rest) ← readBasic? (cs.length + 1) cs
    some (String.ofList s, rest)
  | '\'' :: cs => do
    let (s, rest) ← readLiteral? cs
    some (String.ofList s, rest)
  | cs =>
    if cs.takeWhile isBare = [] then none
    else some (String.ofList (cs.takeWhile isBare), cs.dropWhile isBare)

/-- The names of a key with points between them, the blanks around them left out. -/
def readNames? : Nat → List Char → Option (List String × List Char)
  | 0, _ => none
  | steps + 1, cs => do
    let (name, rest) ← readName? (skipSpace cs)
    match skipSpace rest with
    | '.' :: rest => do
      let (names, rest) ← readNames? steps rest
      some (name :: names, rest)
    | rest => some ([name], rest)

/-- How deep values and names may stand inside each other. -/
def depthLimit : Nat := 79

/-- A key: the names that lead to a field, and the last one apart. -/
def readKey? (cs : List Char) : Option ((List String × String) × List Char) := do
  let (names, rest) ← readNames? (cs.length + 1) cs
  let last ← names.getLast?
  if names.length ≤ depthLimit then some ((names.dropLast, last), rest) else none

end Argumentation.Toml
