import Argumentation.Config
import Argumentation.Data.DataTree
import Argumentation.Error
import Argumentation.Json.Value
import Argumentation.Toml.Reader
import Argumentation.Toml.Writer

/-!
# Records of configurations

How limits and configurations are read from trees of data and written to files.  A
setting that is left out takes its standard value, but a range of weights has both
of its bounds or is left out as a whole.
-/

namespace Argumentation

open DataTree

/-! ## Reading -/

/-- Reads a range of weights. -/
def WeightRange.read? {δ : Type} [DataTree δ] (d : δ) : Option WeightRange := do
  match ← record? 2 ["min", "max"] d with
  | [min, max] => some ⟨← required number? min, ← required number? max⟩
  | _ => none

/-- Reads limits. -/
def Limits.read? {δ : Type} [DataTree δ] (d : δ) : Option Limits := do
  let standard : Limits := {}
  match ← record? 0
      ["max_identifier_length", "node_weight", "edge_weight", "max_description_length"] d with
  | [identifier, node, edge, description] =>
    some { maxIdentifierLength := ← orElse standard.maxIdentifierLength natural? identifier
           nodeWeight := ← orElse standard.nodeWeight WeightRange.read? node
           edgeWeight := ← orElse standard.edgeWeight WeightRange.read? edge
           maxDescriptionLength := ← orElse standard.maxDescriptionLength natural? description }
  | _ => none

/-- Reads the settings of gradual computations, with a value for what is left out. -/
def GradualParams.readWith? {δ : Type} [DataTree δ] (standard : GradualParams) (d : δ) :
    Option GradualParams := do
  match ← record? 0 ["semantics", "aggregation", "gamma", "epsilon"] d with
  | [semantics, aggregation, gamma, epsilon] =>
    let semantics ← orElse standard.semantics (plainChoice GradualSemantics.ofName?) semantics
    let aggregation ← orElse standard.aggregation (plainChoice Aggregation.ofName?) aggregation
    let gamma ← orElse standard.gamma number? gamma
    let epsilon ← orElse standard.epsilon number? epsilon
    some { semantics, aggregation, gamma, epsilon }
  | _ => none

/-- Reads the settings of gradual computations, of which none may be left out. -/
def GradualParams.read? {δ : Type} [DataTree δ] (d : δ) : Option GradualParams := do
  match ← record? 4 ["semantics", "aggregation", "gamma", "epsilon"] d with
  | [semantics, aggregation, gamma, epsilon] =>
    some { semantics := ← required (plainChoice GradualSemantics.ofName?) semantics
           aggregation := ← required (plainChoice Aggregation.ofName?) aggregation
           gamma := ← required number? gamma
           epsilon := ← required number? epsilon }
  | _ => none

/-- Reads the time for which a description has to stay as it is. -/
def Config.readSync? {δ : Type} [DataTree δ] (d : δ) : Option Nat := do
  match ← record? 0 ["debounce_ms"] d with
  | [ms] => orElse ({} : Config).debounceMs natural? ms
  | _ => none

/-- Reads what a new project starts with. -/
def Defaults.read? {δ : Type} [DataTree δ] (d : δ) : Option Defaults := do
  let standard : Defaults := {}
  match ← record? 0 ["project_name", "layout", "extension_semantics", "gradual"] d with
  | [name, layout, semantics, gradual] =>
    some { projectName := ← orElse standard.projectName text? name
           layout := ← orElse standard.layout text? layout
           extensionSemantics := ← orElse standard.extensionSemantics text? semantics
           gradual := ← orElse standard.gradual (GradualParams.readWith? {}) gradual }
  | _ => none

/-- Reads a configuration. -/
def Config.read? {δ : Type} [DataTree δ] (d : δ) : Option Config := do
  match ← record? 0 ["limits", "sync", "defaults"] d with
  | [limits, sync, defaults] =>
    some { limits := ← orElse {} Limits.read? limits
           debounceMs := ← orElse ({} : Config).debounceMs Config.readSync? sync
           defaults := ← orElse {} Defaults.read? defaults }
  | _ => none

/-- The configuration of a file. -/
def Config.ofToml (s : String) : Except Error Config :=
  match (Toml.parse? s).bind fun fields => Config.read? (Toml.table .header fields) with
  | some c => .ok c
  | none => .error (.serialization "Toml deserialization error: malformed configuration")

/-! ## Writing -/

/-- Writes a range of weights to JSON. -/
def WeightRange.toJson (r : WeightRange) : Json :=
  .object [("min", .float r.min), ("max", .float r.max)]

/-- Writes limits to JSON. -/
def Limits.toJson (l : Limits) : Json :=
  .object [("max_identifier_length", .natural l.maxIdentifierLength),
    ("node_weight", l.nodeWeight.toJson), ("edge_weight", l.edgeWeight.toJson),
    ("max_description_length", .natural l.maxDescriptionLength)]

/-- Writes the settings of gradual computations to JSON. -/
def GradualParams.toJson (p : GradualParams) : Json :=
  .object [("semantics", .text p.semantics.name), ("aggregation", .text p.aggregation.name),
    ("gamma", .float p.gamma), ("epsilon", .float p.epsilon)]

/-- The fields of a range of weights in a file. -/
def WeightRange.fields (r : WeightRange) : List (String × Toml.Scalar) :=
  [("min", .float r.min), ("max", .float r.max)]

/-- The tables of a configuration file. -/
def Config.sections (c : Config) : List Toml.Section :=
  [⟨["limits"], [("max_identifier_length", .natural c.limits.maxIdentifierLength),
      ("max_description_length", .natural c.limits.maxDescriptionLength)]⟩,
   ⟨["limits", "node_weight"], c.limits.nodeWeight.fields⟩,
   ⟨["limits", "edge_weight"], c.limits.edgeWeight.fields⟩,
   ⟨["sync"], [("debounce_ms", .natural c.debounceMs)]⟩,
   ⟨["defaults"], [("project_name", .text c.defaults.projectName),
      ("layout", .text c.defaults.layout),
      ("extension_semantics", .text c.defaults.extensionSemantics)]⟩,
   ⟨["defaults", "gradual"], [("semantics", .text c.defaults.gradual.semantics.name),
      ("aggregation", .text c.defaults.gradual.aggregation.name),
      ("gamma", .float c.defaults.gradual.gamma),
      ("epsilon", .float c.defaults.gradual.epsilon)]⟩]

/-- The text of a configuration file. -/
def Config.toToml (c : Config) : Except Error String :=
  match Toml.writeSections? c.sections with
  | some s => .ok s
  | none => .error (.serialization "Toml serialization error: a number is out of range")

end Argumentation
