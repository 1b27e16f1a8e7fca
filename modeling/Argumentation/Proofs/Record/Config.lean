import Argumentation.Proofs.Toml.Pruned
import Argumentation.Record.Config

/-!
# Configurations with fields left out

A configuration file has a table for each part of a configuration (`Config.document`).  When
fields are left out of it, the file says less, but what it still says is read as before, and each
record takes its standard values for the rest (`Toml.Remain.orElse_eq`).  A range of weights is the
only record without standard values for its fields.  When one of its bounds is left out but the
range is not, the file is refused (`Toml.Remain.orElse_range`).

Main statement: `ofToml_pruned`.
-/

namespace Argumentation

open Toml DataTree

/-! ## Documents -/

/-- The value of a field in a file. -/
def Toml.Scalar.value : Scalar → Toml
  | .text s => .text s
  | .natural n => .integer n
  | .float x => .float x

/-- The fields of a document with a table more. -/
def Toml.Section.add? (s : Section) (fields : Fields) : Option Fields := do
  let name ← s.header.getLast?
  let fields ← openTable s.header.dropLast name fields
  s.fields.foldlM (fun fields f => addFieldAt s.header [] f.1 f.2.value fields) fields

/-- The fields of a document that consists of tables under their headers. -/
def Toml.assemble? (sections : List Section) : Option Fields :=
  sections.foldlM (fun fields s => s.add? fields) []

/-- The table of a range of weights. -/
def WeightRange.table (r : WeightRange) : Toml :=
  .table .header [("min", .float r.min), ("max", .float r.max)]

/-- The table of limits. -/
def Limits.table (l : Limits) : Toml :=
  .table .header [("max_identifier_length", .integer l.maxIdentifierLength),
    ("max_description_length", .integer l.maxDescriptionLength),
    ("node_weight", l.nodeWeight.table), ("edge_weight", l.edgeWeight.table)]

/-- The table of the settings of gradual computations. -/
def GradualParams.table (p : GradualParams) : Toml :=
  .table .header [("semantics", .text p.semantics.name), ("aggregation", .text p.aggregation.name),
    ("gamma", .float p.gamma), ("epsilon", .float p.epsilon)]

/-- The table of what a new project starts with. -/
def Defaults.table (d : Defaults) : Toml :=
  .table .header [("project_name", .text d.projectName), ("layout", .text d.layout),
    ("extension_semantics", .text d.extensionSemantics), ("gradual", d.gradual.table)]

/-- The tables of a configuration. -/
def Config.document (c : Config) : Fields :=
  [("limits", c.limits.table),
    ("sync", .table .header [("debounce_ms", .integer c.debounceMs)]),
    ("defaults", c.defaults.table)]

/-- The tables that are written under their headers make the document. -/
theorem Config.assemble?_sections (c : Config) : assemble? c.sections = some c.document := rfl

/-! ## Fields at their standard values -/

section Without

variable (gone : List String → Bool)

/-- A range of weights with the standard values for the bounds that are gone. -/
def WeightRange.without (path : List String) (r : WeightRange) : WeightRange :=
  let standard : WeightRange := {}
  { min := if gone (path ++ ["min"]) then standard.min else r.min
    max := if gone (path ++ ["max"]) then standard.max else r.max }

/-- Limits with the standard values for what is gone. -/
def Limits.without (path : List String) (l : Limits) : Limits :=
  let standard : Limits := {}
  { maxIdentifierLength :=
      if gone (path ++ ["max_identifier_length"]) then standard.maxIdentifierLength
      else l.maxIdentifierLength
    nodeWeight :=
      if gone (path ++ ["node_weight"]) then standard.nodeWeight
      else l.nodeWeight.without gone (path ++ ["node_weight"])
    edgeWeight :=
      if gone (path ++ ["edge_weight"]) then standard.edgeWeight
      else l.edgeWeight.without gone (path ++ ["edge_weight"])
    maxDescriptionLength :=
      if gone (path ++ ["max_description_length"]) then standard.maxDescriptionLength
      else l.maxDescriptionLength }

/-- The settings of gradual computations with the standard values for what is gone. -/
def GradualParams.without (path : List String) (p : GradualParams) : GradualParams :=
  let standard : GradualParams := {}
  { semantics := if gone (path ++ ["semantics"]) then standard.semantics else p.semantics
    aggregation := if gone (path ++ ["aggregation"]) then standard.aggregation else p.aggregation
    gamma := if gone (path ++ ["gamma"]) then standard.gamma else p.gamma
    epsilon := if gone (path ++ ["epsilon"]) then standard.epsilon else p.epsilon }

/-- What a new project starts with, with the standard values for what is gone. -/
def Defaults.without (path : List String) (d : Defaults) : Defaults :=
  let standard : Defaults := {}
  { projectName := if gone (path ++ ["project_name"]) then standard.projectName else d.projectName
    layout := if gone (path ++ ["layout"]) then standard.layout else d.layout
    extensionSemantics :=
      if gone (path ++ ["extension_semantics"]) then standard.extensionSemantics
      else d.extensionSemantics
    gradual :=
      if gone (path ++ ["gradual"]) then standard.gradual
      else d.gradual.without gone (path ++ ["gradual"]) }

/-- A configuration with the standard values for what is gone. -/
def Config.without (c : Config) : Config :=
  let standard : Config := {}
  { limits := if gone ["limits"] then standard.limits else c.limits.without gone ["limits"]
    debounceMs :=
      if gone ["sync"] || gone ["sync", "debounce_ms"] then standard.debounceMs else c.debounceMs
    defaults :=
      if gone ["defaults"] then standard.defaults else c.defaults.without gone ["defaults"] }

/-- Whether a range of weights is gone as a whole or keeps both of its bounds. -/
def RangeWhole (path : List String) : Prop :=
  gone path = true ∨ gone (path ++ ["min"]) = false ∧ gone (path ++ ["max"]) = false

instance (path : List String) : Decidable (RangeWhole gone path) :=
  inferInstanceAs (Decidable (_ ∨ _ ∧ _))

/-- Whether the limits are gone or both of their ranges are whole. -/
def RangesWhole : Prop :=
  gone ["limits"] = true ∨
    RangeWhole gone ["limits", "node_weight"] ∧ RangeWhole gone ["limits", "edge_weight"]

instance : Decidable (RangesWhole gone) := inferInstanceAs (Decidable (_ ∨ _ ∧ _))

end Without

/-! ## Single values -/

variable {gone : List String → Bool} {path : List String} {name : String} {w : Toml}
  {fields fields' : Fields}

theorem Toml.natural?_of_same {n : Nat} (same : Same w (prune gone path (.integer n))) :
    natural? w = some n := by
  rw [same.eq_of_single nofun]
  change (if (0 : Int) ≤ n then some (n : Int).toNat else none) = some n
  rw [if_pos (Int.natCast_nonneg n), Int.toNat_natCast]

theorem Toml.number?_of_same {x : Binary64} (same : Same w (prune gone path (.float x))) :
    number? w = some x := by
  rw [same.eq_of_single nofun]
  rfl

theorem Toml.text?_of_same {s : String} (same : Same w (prune gone path (.text s))) :
    text? w = some s := by
  rw [same.eq_of_single nofun]
  rfl

theorem Toml.plainChoice_of_same {α : Type} {ofName? : String → Option α} {s : String}
    (same : Same w (prune gone path (.text s))) : plainChoice ofName? w = ofName? s := by
  rw [same.eq_of_single nofun]
  change (ofName? s).bind some = ofName? s
  cases ofName? s <;> rfl

/-! ## Records -/

/-- A field that can be read, or is gone. -/
theorem Toml.Remain.orElse_eq_some {α : Type} {read : Toml → Option α} {v : Toml} {a : α}
    (remain : Remain gone path fields fields') (hv : fieldOf fields name = some v) (standard : α)
    (hread : ∀ w, Same w (prune gone (path ++ [name]) v) → read w = some a) :
    orElse standard read (fieldOf fields' name) =
      some (if gone (path ++ [name]) then standard else a) := by
  rw [remain.orElse_eq hv standard hread]
  split <;> rfl

theorem WeightRange.read?_of_same {r : WeightRange} (same : Same w (prune gone path r.table)) :
    WeightRange.read? w =
      if gone (path ++ ["min"]) = false ∧ gone (path ++ ["max"]) = false then some r else none := by
  obtain ⟨origin, fields, rfl, remain⟩ := same.exists_remain
  change (do
    some (⟨← required number? (fieldOf fields "min"), ← required number? (fieldOf fields "max")⟩ :
      WeightRange)) = _
  rw [remain.required_eq rfl fun _ => number?_of_same,
    remain.required_eq rfl fun _ => number?_of_same]
  cases gone (path ++ ["min"]) <;> cases gone (path ++ ["max"]) <;> rfl

/-- A range of weights is only read if it is whole. -/
theorem Toml.Remain.orElse_range {r : WeightRange} (remain : Remain gone path fields fields')
    (hr : fieldOf fields name = some r.table) (standard : WeightRange) :
    orElse standard WeightRange.read? (fieldOf fields' name) =
      if RangeWhole gone (path ++ [name]) then
        some (if gone (path ++ [name]) then standard else r.without gone (path ++ [name]))
      else none := by
  rw [remain.orElse_eq hr _ fun _ => WeightRange.read?_of_same]
  by_cases hgone : gone (path ++ [name]) = true
  · rw [if_pos hgone, if_pos (.inl hgone), if_pos hgone]
  · by_cases hkept : gone (path ++ [name] ++ ["min"]) = false ∧
        gone (path ++ [name] ++ ["max"]) = false
    · rw [if_neg hgone, if_pos hkept, if_pos (.inr hkept), if_neg hgone, WeightRange.without,
        hkept.1, hkept.2]
      rfl
    · have hbroken : ¬RangeWhole gone (path ++ [name]) := not_or.2 ⟨hgone, hkept⟩
      rw [if_neg hgone, if_neg hkept, if_neg hbroken]

/-- Limits are only read if both of their ranges are whole. -/
theorem Limits.read?_of_same {l : Limits} (same : Same w (prune gone path l.table)) :
    Limits.read? w =
      if RangeWhole gone (path ++ ["node_weight"]) ∧ RangeWhole gone (path ++ ["edge_weight"]) then
        some (l.without gone path)
      else none := by
  obtain ⟨origin, fields, rfl, remain⟩ := same.exists_remain
  let standard : Limits := {}
  change (do
    some (⟨← orElse standard.maxIdentifierLength natural? (fieldOf fields "max_identifier_length"),
      ← orElse standard.nodeWeight WeightRange.read? (fieldOf fields "node_weight"),
      ← orElse standard.edgeWeight WeightRange.read? (fieldOf fields "edge_weight"),
      ← orElse standard.maxDescriptionLength natural?
        (fieldOf fields "max_description_length")⟩ : Limits)) = _
  rw [remain.orElse_eq_some rfl _ fun _ => natural?_of_same, remain.orElse_range rfl,
    remain.orElse_range rfl, remain.orElse_eq_some rfl _ fun _ => natural?_of_same]
  by_cases hnode : RangeWhole gone (path ++ ["node_weight"])
  · by_cases hedge : RangeWhole gone (path ++ ["edge_weight"])
    · simp [hnode, hedge, without, standard]
    · simp [hedge]
  · simp [hnode]

theorem GradualParams.readWith?_of_same {p : GradualParams}
    (same : Same w (prune gone path p.table)) :
    GradualParams.readWith? {} w = some (p.without gone path) := by
  obtain ⟨origin, fields, rfl, remain⟩ := same.exists_remain
  have hsemantics {w : Toml} (same : Same w (prune gone (path ++ ["semantics"])
      (.text p.semantics.name))) : plainChoice GradualSemantics.ofName? w = some p.semantics := by
    rw [plainChoice_of_same same, GradualSemantics.ofName?_name]
  have haggregation {w : Toml} (same : Same w (prune gone (path ++ ["aggregation"])
      (.text p.aggregation.name))) : plainChoice Aggregation.ofName? w = some p.aggregation := by
    rw [plainChoice_of_same same, Aggregation.ofName?_name]
  let standard : GradualParams := {}
  change (do
    some (⟨← orElse standard.semantics (plainChoice GradualSemantics.ofName?)
        (fieldOf fields "semantics"),
      ← orElse standard.aggregation (plainChoice Aggregation.ofName?)
        (fieldOf fields "aggregation"),
      ← orElse standard.gamma number? (fieldOf fields "gamma"),
      ← orElse standard.epsilon number? (fieldOf fields "epsilon")⟩ : GradualParams)) = _
  rw [remain.orElse_eq_some rfl _ fun _ => hsemantics,
    remain.orElse_eq_some rfl _ fun _ => haggregation,
    remain.orElse_eq_some rfl _ fun _ => number?_of_same,
    remain.orElse_eq_some rfl _ fun _ => number?_of_same]
  rfl

theorem Defaults.read?_of_same {d : Defaults} (same : Same w (prune gone path d.table)) :
    Defaults.read? w = some (d.without gone path) := by
  obtain ⟨origin, fields, rfl, remain⟩ := same.exists_remain
  let standard : Defaults := {}
  change (do
    some (⟨← orElse standard.projectName text? (fieldOf fields "project_name"),
      ← orElse standard.layout text? (fieldOf fields "layout"),
      ← orElse standard.extensionSemantics text? (fieldOf fields "extension_semantics"),
      ← orElse standard.gradual (GradualParams.readWith? {}) (fieldOf fields "gradual")⟩ :
        Defaults)) = _
  rw [remain.orElse_eq_some rfl _ fun _ => text?_of_same,
    remain.orElse_eq_some rfl _ fun _ => text?_of_same,
    remain.orElse_eq_some rfl _ fun _ => text?_of_same,
    remain.orElse_eq_some rfl _ fun _ => GradualParams.readWith?_of_same]
  rfl

namespace Config

theorem readSync?_of_same {ms : Nat}
    (same : Same w (prune gone path (.table .header [("debounce_ms", .integer ms)]))) :
    readSync? w =
      some (if gone (path ++ ["debounce_ms"]) then ({} : Config).debounceMs else ms) := by
  obtain ⟨origin, fields, rfl, remain⟩ := same.exists_remain
  exact remain.orElse_eq_some rfl _ fun _ => natural?_of_same

/-- A configuration is only read if its ranges are whole. -/
theorem read?_of_same {c : Config} (same : Same w (prune gone [] (.table .header c.document))) :
    Config.read? w = if RangesWhole gone then some (c.without gone) else none := by
  obtain ⟨origin, fields, rfl, remain⟩ := same.exists_remain
  let standard : Config := {}
  change (do
    some (⟨← orElse standard.limits Limits.read? (fieldOf fields "limits"),
      ← orElse standard.debounceMs readSync? (fieldOf fields "sync"),
      ← orElse standard.defaults Defaults.read? (fieldOf fields "defaults")⟩ : Config)) = _
  have hsync : (if gone ["sync"] then standard.debounceMs
      else if gone ["sync", "debounce_ms"] then standard.debounceMs else c.debounceMs) =
        if gone ["sync"] || gone ["sync", "debounce_ms"] then standard.debounceMs
        else c.debounceMs := by
    cases gone ["sync"] <;> rfl
  rw [remain.orElse_eq rfl _ fun _ => Limits.read?_of_same,
    remain.orElse_eq_some rfl _ fun _ => readSync?_of_same,
    remain.orElse_eq_some rfl _ fun _ => Defaults.read?_of_same]
  by_cases hlimits : gone ["limits"] = true
  · simp [RangesWhole, without, hlimits, hsync, standard]
  · by_cases hranges :
        RangeWhole gone ["limits", "node_weight"] ∧ RangeWhole gone ["limits", "edge_weight"]
    · simp [RangesWhole, without, hlimits, hranges, hsync, standard]
    · simp [RangesWhole, hlimits, hranges, hsync, standard]

/-- A file that says what is left of a configuration when fields are gone is read as the
configuration with the standard values for these fields, and with all others as they were.  But it
is refused if a range of weights that is left lacks one of its bounds. -/
theorem ofToml_pruned (c : Config) (gone : List String → Bool) {document fields : Fields}
    {s : String} (written : assemble? c.sections = some document)
    (parsed : parse? s = some fields)
    (same : Same (.table .header fields) (prune gone [] (.table .header document))) :
    Config.ofToml s =
      if RangesWhole gone then .ok (c.without gone)
      else .error (.serialization "Toml deserialization error: malformed configuration") := by
  obtain rfl : document = c.document :=
    Option.some_inj.1 (written.symm.trans c.assemble?_sections)
  rw [Config.ofToml, parsed, Option.bind_some, read?_of_same same]
  by_cases whole : RangesWhole gone
  · rw [if_pos whole, if_pos whole]
  · rw [if_neg whole, if_neg whole]

/-- A range that is left out, one that is kept, and one setting of a table that keeps no other. -/
theorem ofToml_pruned_partial :
    let s := "[limits.edge_weight]\nmin = 0.5\nmax = 2.0\n[defaults]\nlayout = \"grid\"\n"
    Config.ofToml s =
      .ok { limits := { edgeWeight := { min := 1 / 2, max := 2 } }
            defaults := { layout := "grid" } } := by
  intro s
  let c : Config :=
    { limits := { nodeWeight := { min := 3, max := 4 }, edgeWeight := { min := 1 / 2, max := 2 } }
      debounceMs := 7
      defaults := { layout := "grid", gradual := { aggregation := .product, gamma := 2 } } }
  let gone : List String → Bool := (· ∉ [["limits"], ["limits", "edge_weight"],
    ["limits", "edge_weight", "min"], ["limits", "edge_weight", "max"], ["defaults"],
    ["defaults", "layout"]])
  have hsame : (parse? s).any (fun fields =>
      isSame (.table .header fields) (prune gone [] (.table .header c.document))) = true := by
    decide +kernel
  obtain ⟨fields, parsed, same⟩ := exists_same_of_isSame hsame
  have whole : RangesWhole gone := by decide
  have hwithout : c.without gone =
      { limits := { edgeWeight := { min := 1 / 2, max := 2 } }
        defaults := { layout := "grid" } } := by
    decide +kernel
  rw [ofToml_pruned c gone rfl parsed same, if_pos whole, hwithout]

/-- A range that is left with one of its bounds is not completed. -/
theorem ofToml_half_range :
    let c : Config := { limits := { nodeWeight := { min := 1 / 2 } } }
    let gone : List String → Bool :=
      (· ∉ [["limits"], ["limits", "node_weight"], ["limits", "node_weight", "min"]])
    let s := "[limits.node_weight]\nmin = 0.5\n"
    (∃ fields, parse? s = some fields ∧
        Same (.table .header fields) (prune gone [] (.table .header c.document))) ∧
      c.without gone = c ∧ Config.ofToml s ≠ .ok c := by
  intro c gone s
  have hread : ((parse? s).bind fun fields => Config.read? (Toml.table .header fields)) = none := by
    decide +kernel
  refine ⟨exists_same_of_isSame (by decide +kernel), by decide +kernel, ?_⟩
  rw [Config.ofToml, hread]
  exact nofun

end Config

end Argumentation
