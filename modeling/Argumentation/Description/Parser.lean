import Argumentation.Argument
import Argumentation.Error
import Argumentation.Framework
import Argumentation.Statement

/-!
# Reading descriptions

A description is read as a whole or not at all.  Every line is checked and every
fault is told.  First come the faults that a line has by itself, in the order of
the lines.  Then come the ends of relations that no line declares, for the attacks
in the order of their lines and then for the supports.  An argument with a valid
identifier counts as declared even if its weight is not valid, and it may be
declared behind the relations that name it.

Lines are read one after the other into a draft.  Relations wait there until all
arguments are known.  Only a draft without any diagnostic yields a framework: the
arguments in the order of their lines, then the attacks, then the supports.
-/

namespace Argumentation

namespace Description

/-! ## Lines -/

/-- A line with its number among the lines that are not blank. -/
structure Line where
  /-- The number. -/
  number : Nat
  /-- The line without surrounding blanks. -/
  text : String

/-- The lines of a description that are not blank. -/
def lines (text : String) : List Line :=
  (((Text.lines text).map Text.trim).filter (· ≠ "")).mapIdx fun i l => ⟨i + 1, l⟩

/-! ## Drafts -/

/-- A relation that waits until all arguments are known. -/
structure Pending where
  /-- The number of its line. -/
  line : Nat
  /-- What it says. -/
  key : RelationKey
  /-- Its weight. -/
  weight : Option Binary64
  /-- Whether the source is a valid identifier. -/
  sourceValid : Bool
  /-- Whether the target is a valid identifier. -/
  targetValid : Bool
  /-- Whether the weight is valid. -/
  weightValid : Bool

/-- What has been read of a description. -/
structure Draft where
  /-- What is declared so far. -/
  framework : Framework := {}
  /-- The attacks that wait. -/
  attacks : List Pending := []
  /-- The supports that wait. -/
  supports : List Pending := []
  /-- The faults so far. -/
  diagnostics : List Diagnostic := []

namespace Draft

/-- Tells a fault of a line. -/
def report (d : Draft) (line : Nat) (fault : Fault) : Draft :=
  { d with diagnostics := d.diagnostics ++ [⟨line, fault⟩] }

/-- Takes the value of a check and tells the fault of one that fails. -/
def check {α : Type} (d : Draft) (line : Nat) : Except ValidationError α → Draft × Option α
  | .ok a => (d, some a)
  | .error e => (d.report line (.invalid e), none)

/-- Lets a relation wait. -/
def hold (d : Draft) (p : Pending) : Draft :=
  match p.key.kind with
  | .attack => { d with attacks := d.attacks ++ [p] }
  | .support => { d with supports := d.supports ++ [p] }

/-- Reads a line. -/
def readLine (limits : Limits) (d : Draft) (l : Line) : Draft :=
  match Statement.ofLine l.text with
  | .argument id weight =>
    let (d, named) := d.check l.number (validateIdentifier limits id)
    let (d, weighed) := d.check l.number (validateWeight limits .node weight)
    -- The weight may have failed: the argument is declared all the same.
    if named.isSome then
      { d with framework := d.framework.declareArgument (canonicalId id) weighed.join }
    else d
  | .relation kind source target weight =>
    let (d, sourced) := d.check l.number (validateIdentifier limits source)
    let (d, targeted) := d.check l.number (validateIdentifier limits target)
    let (d, weighed) := d.check l.number (validateWeight limits .edge weight)
    d.hold {
      line := l.number
      key := ⟨kind, canonicalId source, canonicalId target⟩
      weight := weighed.join
      sourceValid := sourced.isSome
      targetValid := targeted.isSome
      weightValid := weighed.isSome }
  | .unrecognized => d.report l.number (.notAStatement l.text)

/-- Whether a valid identifier is not declared. -/
def lacks (d : Draft) (valid : Bool) (id : String) : Bool :=
  valid && !d.framework.containsArgument id

/-- Declares a relation that has waited, or tells which of its ends are not declared. -/
def settle (d : Draft) (p : Pending) : Draft :=
  let noSource := d.lacks p.sourceValid p.key.source
  let noTarget := d.lacks p.targetValid p.key.target
  let d := if noSource then d.report p.line (.undefinedSource p.key.kind p.key.source) else d
  let d := if noTarget then d.report p.line (.undefinedTarget p.key.kind p.key.target) else d
  if p.sourceValid && p.targetValid && !noSource && !noTarget && p.weightValid then
    { d with framework := d.framework.declareRelation p.key p.weight }
  else d

/-- The framework of a draft, or all that is wrong with it. -/
def outcome (d : Draft) : Except (List Diagnostic) Framework :=
  if d.diagnostics = [] then .ok d.framework else .error d.diagnostics

end Draft

/-- The framework of a description, or all that is wrong with it. -/
def parse (limits : Limits) (text : String) : Except (List Diagnostic) Framework :=
  let d := (lines text).foldl (Draft.readLine limits) {}
  ((d.attacks ++ d.supports).foldl Draft.settle d).outcome

end Description

end Argumentation
