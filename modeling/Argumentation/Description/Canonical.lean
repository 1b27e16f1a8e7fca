import Argumentation.Framework
import Argumentation.Number.Layout

/-!
# Canonical descriptions

The canonical text of a framework has one statement on each line, arguments first
and then relations, without any blank.  Weights are written with the fewest
digits that read back.
-/

namespace Argumentation

namespace Description

/-- The fields of a statement: the given ones and the weight, if there is one. -/
def fields (names : List String) (weight : Option Binary64) : String :=
  String.intercalate "," (names ++ (weight.map Binary64.toText).toList)

/-- A statement. -/
def statement (keyword : String) (names : List String) (weight : Option Binary64) : String :=
  keyword ++ "(" ++ fields names weight ++ ")."

/-- The statement of an argument. -/
def argumentLine (id : String) (weight : Option Binary64) : String :=
  statement "arg" [id] weight

/-- The statement of a relation. -/
def relationLine (key : RelationKey) (weight : Option Binary64) : String :=
  statement key.kind.keyword [key.source, key.target] weight

/-- The lines of a listing of arguments and relations. -/
def listingLines (arguments : Assoc String (Option Binary64))
    (relations : Assoc RelationKey (Option Binary64)) : List String :=
  arguments.map (fun e => argumentLine e.1 e.2) ++ relations.map fun e => relationLine e.1 e.2

end Description

/-- The canonical text of a framework: arguments, attacks and supports, each in the
order of their declaration. -/
def Framework.toText (f : Framework) : String :=
  String.intercalate "\n"
    (f.arguments.map (fun e => Description.argumentLine e.1 e.2) ++
      f.relations.map fun e => Description.relationLine e.1 e.2)

example : (({} : Framework).declareArgument "a" (some (1 / 2))).toText = "arg(a,0.5)." := by
  decide +kernel

end Argumentation
