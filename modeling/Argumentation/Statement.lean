import Argumentation.Relation
import Argumentation.Text.Blank

/-!
# Statements

A line of the description notation is a statement.

* `arg(id).` and `arg(id,weight).` declare an argument.
* `att(source,target).` and `att(source,target,weight).` declare an attack.
* `support(source,target).` and `support(source,target,weight).` declare a support.

Blanks may stand around every field and in front of the final point.  The fields
come trimmed but otherwise as they are written; whether they are valid is asked
later.
-/

namespace Argumentation

/-- A line of a description. -/
inductive Statement where
  /-- An argument. -/
  | argument (id : String) (weight : Option String)
  /-- A relation. -/
  | relation (kind : RelationKind) (source target : String) (weight : Option String)
  /-- No statement. -/
  | unrecognized
  deriving DecidableEq

namespace Statement

/-- Whether a character is an ASCII letter. -/
def isLetter (c : Char) : Bool := ('a' ≤ c && c ≤ 'z') || ('A' ≤ c && c ≤ 'Z')

/-- What stands in front of a final character, if it is the final one. -/
def stripLast? (c : Char) (cs : List Char) : Option (List Char) :=
  if cs.getLast? = some c then some cs.dropLast else none

/-- The keyword of a line without surrounding blanks and the characters between its
parentheses. -/
def splitCall? (line : List Char) : Option (List Char × List Char) := do
  let body ← stripLast? '.' line
  let body ← stripLast? ')' (Text.trimRight body)
  let keyword := body.takeWhile (· ≠ '(')
  match body.dropWhile (· ≠ '(') with
  | [] => none
  | _ :: fields =>
    if keyword ≠ [] ∧ keyword.all isLetter ∧ fields.all (fun c => c ≠ '(' ∧ c ≠ ')') then
      some (keyword, fields)
    else none

/-- The fields between commas, without surrounding blanks. -/
def splitFields (cs : List Char) : List String :=
  (cs.splitOn ',').map fun f => String.ofList (Text.trimChars f)

/-- The statement of a keyword and its fields. -/
def ofFields : String → List String → Statement
  | "arg", [id] => .argument id none
  | "arg", [id, weight] => .argument id (some weight)
  | "att", [source, target] => .relation .attack source target none
  | "att", [source, target, weight] => .relation .attack source target (some weight)
  | "support", [source, target] => .relation .support source target none
  | "support", [source, target, weight] => .relation .support source target (some weight)
  | _, _ => .unrecognized

/-- The statement of a line. -/
def ofLine (line : String) : Statement :=
  match splitCall? (Text.trimChars line.toList) with
  | some (keyword, fields) => ofFields (String.ofList keyword) (splitFields fields)
  | none => .unrecognized

example : ofLine "  arg( B , 0.5 ) . " = .argument "B" (some "0.5") := by decide +kernel
example : ofLine "att(a,b)." = .relation .attack "a" "b" none := by decide +kernel
example : ofLine "arg()." = .argument "" none := by decide +kernel
example : ofLine "arg(a)" = .unrecognized ∧ ofLine "Arg(a)." = .unrecognized := by decide +kernel

end Statement

end Argumentation
