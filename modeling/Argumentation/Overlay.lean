import Argumentation.Error
import Argumentation.Graph.Basic
import Argumentation.Labeling
import Argumentation.Strength

/-!
# Results over a graph

Computed labelings and strengths are held beside a graph and shown on its
arguments.  There are two lists of labelings, the primary one and the one that is
filtered from it.  A row that is selected in one list is selected in the other
too, if it is there, and decides how the arguments look.

Showing results changes the appearances and the strengths of arguments and nothing
else.
-/

namespace Argumentation

/-- One of the two lists of labelings. -/
inductive ResultList where
  /-- The labelings that were computed. -/
  | primary
  /-- The labelings that were filtered from them. -/
  | filtered
  deriving DecidableEq

/-- The other list. -/
def ResultList.other : ResultList → ResultList
  | .primary => .filtered
  | .filtered => .primary

/-- The place of the first row that equals a row up to surrounding blanks. -/
def rowPosition? (rows : List String) (row : String) : Option Nat :=
  rows.findIdx? (Text.trim · = Text.trim row)

/-- Rows as a text with a row on each line. -/
def rowsText (rows : List String) : String := String.intercalate "\n" rows

/-- The results that are held. -/
structure Overlay where
  /-- The labelings that were computed. -/
  primary : List String := []
  /-- The labelings that were filtered from them. -/
  filtered : List String := []
  /-- The selected row of the primary list. -/
  primarySelected : Option Nat := none
  /-- The selected row of the filtered list. -/
  filteredSelected : Option Nat := none
  /-- The lines of strengths. -/
  strengths : List String := []
  deriving DecidableEq

namespace Overlay

/-! ## Lists and selections -/

/-- The rows of a list. -/
def labelings (o : Overlay) : ResultList → List String
  | .primary => o.primary
  | .filtered => o.filtered

/-- The selected row of a list. -/
def selected (o : Overlay) : ResultList → Option Nat
  | .primary => o.primarySelected
  | .filtered => o.filteredSelected

/-- Sets the selected row of a list. -/
def setSelected (o : Overlay) (list : ResultList) (row : Option Nat) : Overlay :=
  match list with
  | .primary => { o with primarySelected := row }
  | .filtered => { o with filteredSelected := row }

/-- The row that decides how the arguments look. -/
def shown? (o : Overlay) : Option String :=
  (o.primarySelected.bind (o.primary[·]?)).or (o.filteredSelected.bind (o.filtered[·]?))

/-! ## Showing labelings -/

/-- The graph on which no argument looks special. -/
def clearAppearances (g : Graph) : Graph := g.mapArguments fun a => { a with appearance := .plain }

/-- Shows one literal. -/
def showLiteral (g : Graph) (l : Literal) : Graph :=
  g.modifyArgument l.argument fun a => { a with appearance := l.status.appearance }

/-- Shows the selected labeling. -/
def showLabeling (o : Overlay) (g : Graph) : Graph :=
  match o.shown? with
  | none => clearAppearances g
  | some row => (Labeling.parse row).foldl showLiteral (clearAppearances g)

/-- Holds new primary labelings.  Nothing is selected then. -/
def setLabelings (o : Overlay) (g : Graph) (rows : List String) : Overlay × Graph :=
  let o := { o with primary := rows, filtered := [], primarySelected := none,
                    filteredSelected := none }
  (o, o.showLabeling g)

/-- Holds new filtered labelings.  None of them is selected then. -/
def setFiltered (o : Overlay) (g : Graph) (rows : List String) : Overlay × Graph :=
  let o := { o with filtered := rows, filteredSelected := none }
  (o, o.showLabeling g)

/-- Selects a row and the row that equals it in the other list.  To select a selected
row again clears both selections. -/
def select (o : Overlay) (g : Graph) (list : ResultList) (row : Nat) :
    Except Error (Overlay × Graph) :=
  match (o.labelings list)[row]? with
  | none => .error (.notFound ("labeling row " ++ Nat.repr row))
  | some text =>
    let o :=
      if o.selected list = some row then
        { o with primarySelected := none, filteredSelected := none }
      else
        (o.setSelected list (some row)).setSelected list.other
          (rowPosition? (o.labelings list.other) text)
    .ok (o, o.showLabeling g)

/-! ## Showing strengths -/

/-- The graph on which no result is shown. -/
def clearResults (g : Graph) : Graph := g.mapArguments Argument.clearResults

/-- Shows the strength of a line and counts it, if it names an argument. -/
def showStrength (shown : Graph × Nat) (line : String) : Graph × Nat :=
  match Strength.parseLine? line with
  | none => shown
  | some (id, x) =>
    if shown.1.contains id then
      (shown.1.modifyArgument id fun a =>
        { a with strength := some x, appearance := .strength (Strength.bucket x) }, shown.2 + 1)
    else shown

/-- Holds new lines of strengths and shows them.  The number of lines that are shown
comes with them. -/
def setStrengths (o : Overlay) (g : Graph) (lines : List String) : Overlay × Graph × Nat :=
  ({ o with strengths := lines }, lines.foldl showStrength (clearResults g, 0))

/-! ## Discarding results -/

/-- Drops the filtered labelings and both selections. -/
def resetFiltered (o : Overlay) (g : Graph) : Overlay × Graph :=
  ({ o with filtered := [], filteredSelected := none, primarySelected := none },
    clearAppearances g)

/-! ## Results as texts -/

/-- The labelings of a list, one on each line. -/
def labelingsText (o : Overlay) (list : ResultList) : Except Error String :=
  match o.labelings list, list with
  | [], .primary => .error (.noResults "No labelings to save.")
  | [], .filtered => .error (.noResults "No filtered labelings to save.")
  | rows, _ => .ok (rowsText rows)

/-- The lines of strengths. -/
def strengthsText (o : Overlay) : Except Error String :=
  if o.strengths = [] then .error (.noResults "No strength values to save.")
  else .ok (rowsText o.strengths)

end Overlay

end Argumentation
