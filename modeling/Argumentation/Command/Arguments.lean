/-!
# Arguments of the command line

A word that starts with a dash is an option, any other word is an operand.  An
option has a name behind two dashes and may have a letter behind one dash.  Letters
that take no value may share a dash.  The value of an option stands behind an
equals sign, right behind the letter or in the next word.  Behind two dashes alone
all words are operands.  Behind an option that ends the line nothing is read.
-/

namespace Argumentation

namespace Command

/-- An option of a command. -/
structure OptionRule where
  /-- The name behind two dashes. -/
  name : String
  /-- The letter behind one dash. -/
  letter : Option Char := none
  /-- Whether the option has a value. -/
  takesValue : Bool := true
  /-- Whether the value may be empty. -/
  allowsEmpty : Bool := false
  /-- Whether the line ends with the option, which then takes no value. -/
  ends : Bool := false
  deriving DecidableEq

/-- Why a command line is refused. -/
inductive UsageError where
  /-- There is no option of this name or letter. -/
  | unknownOption (text : String)
  /-- The value of an option is missing. -/
  | missingValue (name : String)
  /-- An option has a value and takes none. -/
  | unexpectedValue (name : String)
  /-- An option is given twice. -/
  | repeatedOption (name : String)
  /-- There is no command. -/
  | missingCommand
  /-- There is no command of this name. -/
  | unknownCommand (text : String)
  /-- The path is missing. -/
  | missingPath
  /-- There are more words than a command takes. -/
  | unexpectedOperand (text : String)
  deriving DecidableEq

/-- The message for the user. -/
def UsageError.message : UsageError → String
  | .unknownOption text => "unexpected option '" ++ text ++ "'"
  | .missingValue name => "a value is required for '--" ++ name ++ "'"
  | .unexpectedValue name => "'--" ++ name ++ "' takes no value"
  | .repeatedOption name => "'--" ++ name ++ "' cannot be used more than once"
  | .missingCommand => "a command is required"
  | .unknownCommand text => "unknown command '" ++ text ++ "'"
  | .missingPath => "a path is required"
  | .unexpectedOperand text => "unexpected argument '" ++ text ++ "'"

/-- What a word of a command line says. -/
inductive Item where
  /-- An option without a value. -/
  | flag (name : String)
  /-- An option with its value. -/
  | value (name value : String)
  /-- An operand. -/
  | operand (text : String)
  deriving DecidableEq

/-! ## Single words -/

/-- Whether a word is an operand. -/
def isOperand (word : String) : Bool :=
  match word.toList with
  | '-' :: _ :: _ => false
  | _ => true

/-- An option with its value, unless the value is empty and must not be. -/
def OptionRule.withValue (r : OptionRule) (value : String) : Except UsageError Item :=
  if value = "" ∧ !r.allowsEmpty then .error (.missingValue r.name)
  else .ok (.value r.name value)

/-- What is read behind a word. -/
inductive Continuation where
  /-- The next word. -/
  | word
  /-- The value of an option. -/
  | value (r : OptionRule)
  /-- Nothing. -/
  | nothing
  deriving DecidableEq

/-- What a word says, and what is read behind it. -/
abbrev WordItems := List Item × Continuation

/-- An option without a value, and what is read behind it. -/
def OptionRule.alone (r : OptionRule) : WordItems :=
  ([.flag r.name], if r.ends then .nothing else .word)

/-- The options behind one dash. -/
def letters (rules : List OptionRule) : List Char → Except UsageError WordItems
  | [] => .ok ([], .word)
  | c :: cs =>
    match rules.find? (·.letter = some c) with
    | none => .error (.unknownOption (String.ofList ['-', c]))
    | some r =>
      if r.ends then .ok r.alone
      else if r.takesValue then
        match cs with
        | [] => .ok ([], .value r)
        | '=' :: value => do .ok ([← r.withValue (String.ofList value)], .word)
        | value => do .ok ([← r.withValue (String.ofList value)], .word)
      else if cs.head? = some '=' then .error (.unexpectedValue r.name)
      else do
        let (items, next) ← letters rules cs
        .ok (.flag r.name :: items, next)

/-- The option behind two dashes. -/
def named (rules : List OptionRule) (text : List Char) : Except UsageError WordItems :=
  let name := String.ofList (text.takeWhile (· ≠ '='))
  match rules.find? (·.name = name), text.dropWhile (· ≠ '=') with
  | none, _ => .error (.unknownOption ("--" ++ name))
  | some r, [] => .ok (if r.takesValue then ([], .value r) else r.alone)
  | some r, _ :: value =>
    if r.takesValue then do .ok ([← r.withValue (String.ofList value)], .word)
    else .error (.unexpectedValue r.name)

/-- What a word says. -/
def wordItems (rules : List OptionRule) (word : String) : Except UsageError WordItems :=
  match word.toList with
  | '-' :: '-' :: name => named rules name
  | '-' :: c :: cs => letters rules (c :: cs)
  | _ => .ok ([.operand word], .word)

/-! ## Command lines -/

/-- What the words of a command line say. -/
def scan (rules : List OptionRule) : List String → Except UsageError (List Item)
  | [] => .ok []
  | "--" :: words => .ok (words.map .operand)
  | word :: words => do
    match ← wordItems rules word with
    | (items, .nothing) => .ok items
    | (items, .word) => .ok (items ++ (← scan rules words))
    | (items, .value r) =>
      match words with
      | [] => .error (.missingValue r.name)
      | value :: words =>
        if isOperand value then
          .ok (items ++ (← r.withValue value) :: (← scan rules words))
        else .error (.missingValue r.name)

/-- The options in front of the first operand, and the words from there on. -/
def scanLead (rules : List OptionRule) : List String → Except UsageError (List Item × List String)
  | [] => .ok ([], [])
  | word :: words => do
    if isOperand word then .ok ([], word :: words)
    else
      match ← wordItems rules word with
      | (items, .nothing) => .ok (items, [])
      | (items, .word) =>
        let (more, left) ← scanLead rules words
        .ok (items ++ more, left)
      | (items, .value r) =>
        match words with
        | [] => .error (.missingValue r.name)
        | value :: words =>
          if isOperand value then
            let item ← r.withValue value
            let (more, left) ← scanLead rules words
            .ok (items ++ item :: more, left)
          else .error (.missingValue r.name)

/-! ## Reading the items -/

/-- Whether an option without a value is given. -/
def flag (items : List Item) (name : String) : Except UsageError Bool :=
  match items.filter (· = .flag name) with
  | [] => .ok false
  | [_] => .ok true
  | _ => .error (.repeatedOption name)

/-- The value of an option. -/
def value? (items : List Item) (name : String) : Except UsageError (Option String) :=
  let values := items.filterMap fun
    | .value n v => if n = name then some v else none
    | _ => none
  match values with
  | [] => .ok none
  | [v] => .ok (some v)
  | _ => .error (.repeatedOption name)

/-- The only operand, which has to be a path. -/
def path (items : List Item) : Except UsageError String :=
  let operands := items.filterMap fun
    | .operand text => some text
    | _ => none
  match operands with
  | [] => .error .missingPath
  | [text] => if text = "" then .error .missingPath else .ok text
  | _ :: text :: _ => .error (.unexpectedOperand text)

end Command

end Argumentation
