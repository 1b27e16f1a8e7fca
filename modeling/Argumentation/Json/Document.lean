import Argumentation.Data.DataTree
import Argumentation.Json.Value
import Argumentation.Number.Decimal

/-!
# JSON documents

A document is what a JSON text spells, before it is judged what the spelling
denotes.  A numeral may be beyond every number and a text may hold half of a pair
of code units.  That makes no difference in a field that nobody asks for, so the
judgement is left to the one who asks: `Numeral.value?`, `Document.value?` and the
instance of `DataTree`.
-/

namespace Argumentation

namespace Json

/-! ## Numerals -/

/-- The parts of a written number. -/
structure Numeral where
  /-- Whether a minus sign stands in front. -/
  negative : Bool
  /-- The digits before the point. -/
  whole : List Char
  /-- The digits behind the point, if there is one. -/
  fraction : Option (List Char)
  /-- The exponent, if there is one. -/
  exponent : Option Int
  deriving DecidableEq

/-- Takes digits up as long as the value stays below `2 ^ 64`.  The value comes with
the digits that are left. -/
def gather (n : Nat) : List Char → Nat × List Char
  | [] => (n, [])
  | c :: cs =>
    if 10 * n + digitValue c < UInt64.size then gather (10 * n + digitValue c) cs else (n, c :: cs)

/-- A coefficient times a power of ten, if that is not infinite.  The coefficient
is rounded, and each scaling rounds again.  Powers beyond `10 ^ 308` are not
numbers, so a smaller exponent is taken in two steps. -/
def scale? (coefficient : Nat) (exponent : Int) : Option Binary64 :=
  let x := Binary64.ofNat coefficient
  if 0 ≤ exponent then
    if exponent ≤ 308 then
      let y := x * Binary64.ofNat (Nat.pow 10 exponent.toNat)
      if y.isFinite then some y else none
    else if coefficient = 0 then some 0
    else none
  else if -308 ≤ exponent then some (x / Binary64.ofNat (Nat.pow 10 (-exponent).toNat))
  else if -616 ≤ exponent then
    some (x / Binary64.ofNat (Nat.pow 10 308) /
      Binary64.ofNat (Nat.pow 10 (-exponent - 308).toNat))
  else some 0

/-- The floating-point number that a numeral denotes. -/
def Numeral.float? (n : Numeral) : Option Binary64 :=
  let (coefficient, left) := gather 0 n.whole
  let fraction := n.fraction.getD []
  let (coefficient, ignored) := gather coefficient fraction
  let shift : Int := (left.length : Int) - (fraction.length - ignored.length : Nat)
  (scale? coefficient (shift + n.exponent.getD 0)).map fun x => if n.negative then -x else x

/-- The number that a numeral denotes: an integer if it has neither point nor
exponent and fits 64 bits, and a floating-point number otherwise. -/
def Numeral.value? (n : Numeral) : Option Number :=
  let m := digitsValue n.whole
  if n.fraction.isSome ∨ n.exponent.isSome ∨ UInt64.size ≤ m then n.float?.map .float
  else if !n.negative then some (.integer m)
  else if m = 0 ∨ -Int64.minValue.toInt < m then some (.float (-Binary64.ofNat m))
  else some (.integer (-m))

/-! ## Documents -/

/-- What a JSON text spells.  A text is `none` when it holds half of a pair of code
units. -/
inductive Document where
  /-- The value that stands for nothing. -/
  | null
  /-- A truth value. -/
  | bool (b : Bool)
  /-- A number. -/
  | numeral (n : Numeral)
  /-- A text. -/
  | text (s : Option String)
  /-- A list. -/
  | array (items : List Document)
  /-- Named fields. -/
  | object (fields : List (Option String × Document))

/-- How many lists and objects may stand inside each other. -/
def depthLimit : Nat := 127

mutual

/-- The value that a document denotes within a depth of lists and objects.  The
fields of an object come in the order of their names. -/
def Document.value? (depth : Nat) : Document → Option Json
  | .null => some .null
  | .bool b => some (.bool b)
  | .numeral n => n.value?.map .number
  | .text s => s.map .text
  | .array ds => if depth = 0 then none else (values? (depth - 1) ds).map .array
  | .object fs =>
    if depth = 0 then none else (fieldValues? (depth - 1) fs).map (.object ∘ sortFields)

/-- The values of the items of a list. -/
def values? (depth : Nat) : List Document → Option (List Json)
  | [] => some []
  | d :: ds => do
    let v ← d.value? depth
    let vs ← values? depth ds
    some (v :: vs)

/-- The fields of an object. -/
def fieldValues? (depth : Nat) : List (Option String × Document) → Option (List (String × Json))
  | [] => some []
  | f :: fs => do
    let name ← f.1
    let v ← f.2.value? depth
    let vs ← fieldValues? depth fs
    some ((name, v) :: vs)

end

/-! ## Records -/

/-- The value of the field of a name. -/
def fieldOf (fields : List (String × Document)) (name : String) : Option Document :=
  (fields.find? (·.1 = name)).map (·.2)

/-- The values of the named fields of an object or of a row. -/
def Document.record? (least : Nat) (names : List String) :
    Document → Option (List (Option Document))
  | .object fields => do
    let fields ← fields.mapM fun f => f.1.map (·, f.2)
    if names.all fun name => (fields.filter (·.1 = name)).length ≤ 1 then
      some (names.map (fieldOf fields))
    else none
  | .array items =>
    if least ≤ items.length ∧ items.length ≤ names.length then
      some ((List.range names.length).map fun i => items[i]?)
    else none
  | _ => none

/-- The number that a document denotes. -/
def Document.number? : Document → Option Number
  | .numeral n => n.value?
  | _ => none

instance : DataTree Document where
  record? := Document.record?
  items?
    | .array items => some items
    | _ => none
  text?
    | .text s => s
    | _ => none
  natural? d :=
    match d.number? with
    | some (.integer n) => if 0 ≤ n then some n.toNat else none
    | _ => none
  number? d := d.number?.map Number.toBinary64
  choice?
    | .text s => s.map (·, none)
    | .object [(name, d)] => name.map (·, some d)
    | _ => none
  isEmpty
    | .null => true
    | _ => false
  isAbsent
    | .null => true
    | _ => false

end Json

end Argumentation
