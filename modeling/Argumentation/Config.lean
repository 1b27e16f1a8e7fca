import Argumentation.Semantics.Gradual

/-!
# Configuration

The settings of an editor.  Every setting has a standard value, so a configuration
file says only what differs.
-/

namespace Argumentation

/-- What a new project starts with. -/
structure Defaults where
  /-- The name of the project. -/
  projectName : String := "graph"
  /-- The name of the layout of the graph. -/
  layout : String := "cose"
  /-- The name of the extension-based semantics. -/
  extensionSemantics : String := "grounded"
  /-- The settings of gradual computations. -/
  gradual : GradualParams := {}
  deriving DecidableEq

/-- The settings of an editor. -/
structure Config where
  /-- The limits of a description. -/
  limits : Limits := {}
  /-- How many milliseconds a description has to stay as it is before it is read. -/
  debounceMs : Nat := 100
  /-- What a new project starts with. -/
  defaults : Defaults := {}
  deriving DecidableEq

/-- Equality with the numbers compared as numbers. -/
def Defaults.numEq (d e : Defaults) : Bool :=
  d.projectName == e.projectName && d.layout == e.layout &&
    d.extensionSemantics == e.extensionSemantics && d.gradual.numEq e.gradual

/-- Equality with the numbers compared as numbers. -/
def Config.numEq (c d : Config) : Bool :=
  c.limits.numEq d.limits && c.debounceMs == d.debounceMs && c.defaults.numEq d.defaults

end Argumentation
