import Argumentation.Proofs.Overlay.Appearance
import Argumentation.Proofs.Strength

/-!
# Strengths that are shown

Of the lines of strengths, those count that give a strength to an argument of the graph (`Counts`).
What the last of them says of an argument is its strength (`Strength.last?_eq_some_iff`), which puts
it into a bucket.  An argument of which none says anything has no strength and looks like nothing.

Main statement: `setStrengths_reads`.
-/

namespace Argumentation

/-! ## The last line that counts -/

namespace Strength

variable {lines : List String} {line id : String} {x : Binary64}

theorem any_parseLine?_iff :
    (parseLine? line).any (·.1 = id) = true ↔ ∃ x, Gives line id x := by
  simp only [← parseLine?_eq_some_iff]
  cases parseLine? line with
  | none => simp
  | some e => simp [Prod.ext_iff]

/-- The strength of an argument is what the last line says that gives it one. -/
theorem last?_eq_some_iff : last? lines id = some x ↔ ∃ before line after,
    lines = before ++ line :: after ∧ Gives line id x ∧ ∀ l ∈ after, ∀ y, ¬Gives l id y := by
  rw [last?, lastNamed?, ← List.filterMap_reverse, List.find?_filterMap, Option.map_eq_some_iff]
  constructor
  · rintro ⟨⟨id', x'⟩, hfound, rfl⟩
    obtain ⟨line, hfind, hparse⟩ := Option.bind_eq_some_iff.1 hfound
    obtain ⟨hnames, behind, front, hlines, hbehind⟩ := List.find?_eq_some_iff_append.1 hfind
    obtain rfl : id' = id := by
      rw [hparse] at hnames
      simpa using hnames
    refine ⟨front.reverse, line, behind.reverse, ?_, parseLine?_eq_some_iff.1 hparse, ?_⟩
    · rw [← List.reverse_reverse lines, hlines]
      simp
    · intro l hl y hgives
      have hsilent := hbehind l (List.mem_reverse.1 hl)
      rw [any_parseLine?_iff.2 ⟨y, hgives⟩] at hsilent
      cases hsilent
  · rintro ⟨before, line, after, rfl, hgives, hafter⟩
    refine ⟨(id, x), Option.bind_eq_some_iff.2 ⟨line, ?_, parseLine?_eq_some_iff.2 hgives⟩, rfl⟩
    refine List.find?_eq_some_iff_append.2
      ⟨any_parseLine?_iff.2 ⟨x, hgives⟩, after.reverse, before.reverse, by simp, fun l hl => ?_⟩
    rw [Bool.not_eq_true', Bool.eq_false_iff]
    intro hnames
    obtain ⟨y, hy⟩ := any_parseLine?_iff.1 hnames
    exact hafter l (List.mem_reverse.1 hl) y hy

/-- A strength that is shown is at most one. -/
theorem le_of_last? (h : last? lines id = some x) : x.le 1 = true := by
  obtain ⟨_, _, _, _, ⟨_, _, _, _, _, _, hle, _, rfl⟩, _⟩ := last?_eq_some_iff.1 h
  exact hle

end Strength

namespace Overlay

/-! ## How many lines count -/

/-- Whether a line gives a strength to an argument of a graph. -/
def Counts (g : Graph) (line : String) : Prop := ∃ id ∈ g.keys, ∃ x, Strength.Gives line id x

variable {g : Graph} {line : String}

theorem counts_iff :
    Counts g line ↔ (Strength.parseLine? line).any (·.1 ∈ g.keys) = true := by
  simp only [Counts, ← Strength.parseLine?_eq_some_iff]
  cases Strength.parseLine? line with
  | none => simp
  | some e => simp [Prod.ext_iff]

instance (g : Graph) (line : String) : Decidable (Counts g line) :=
  decidable_of_iff _ counts_iff.symm

theorem keys_showStrength (shown : Graph × Nat) (line : String) :
    (showStrength shown line).1.keys = shown.1.keys := by
  rw [← keys_clearResults, clearResults_showStrength, keys_clearResults]

theorem snd_showStrength (shown : Graph × Nat) (line : String) :
    (showStrength shown line).2 = shown.2 + if Counts shown.1 line then 1 else 0 := by
  unfold showStrength
  simp only [counts_iff]
  cases hparse : Strength.parseLine? line with
  | none => rfl
  | some e =>
    have hid : canonicalId e.1 = e.1 := Strength.isCanonical_of_parseLine? hparse
    have hcontains : shown.1.contains e.1 = true ↔ e.1 ∈ shown.1.keys := by
      rw [Graph.contains_iff, hid]
    simp only [Option.any_some, decide_eq_true_eq, ← hcontains]
    split <;> rfl

/-- Whether a line counts does not depend on what the lines before it have shown. -/
theorem snd_foldl_showStrength (lines : List String) (shown : Graph × Nat) :
    (lines.foldl showStrength shown).2 = shown.2 + lines.countP (Counts shown.1) := by
  induction lines generalizing shown with
  | nil => rfl
  | cons line lines ih =>
    have hcounts : Counts (showStrength shown line).1 = Counts shown.1 :=
      funext fun l => by simp only [Counts, keys_showStrength]
    rw [List.foldl_cons, ih, snd_showStrength, List.countP_cons]
    simp only [hcounts, decide_eq_true_eq]
    omega

/-! ## What is shown -/

theorem graph_setStrengths (o : Overlay) (g : Graph) (lines : List String) :
    (o.setStrengths g lines).2.1 =
      { g with nodes := g.nodes.map fun n => { n with argument := { n.argument with
          strength := Strength.last? lines n.key
          appearance := strengthLook (Strength.last? lines n.key) } } } := by
  have hcontent := content_of_clearResults (clearResults_setStrengths o g lines)
  rw [← nodes_setStrengths o g lines, ← Graph.relations_of_content hcontent,
    ← Graph.counter_of_content hcontent]

/-- Whatever was shown before, every argument has the strength that the last line gives it which
counts, and looks like the first bucket whose bound is not below it; if there is no such line, it
has no strength and looks like nothing.  Nothing else changes, and the lines that count are
counted. -/
theorem setStrengths_reads (o : Overlay) (g : Graph) (lines : List String) :
    let shown := o.setStrengths g lines
    shown.1 = { o with strengths := lines } ∧
    shown.2.1 = { g with nodes := g.nodes.map fun n => { n with argument := { n.argument with
        strength := Strength.last? lines n.key
        appearance := (Strength.last? lines n.key).elim .plain fun x =>
          .strength (Strength.bucket x) } } } ∧
    (∀ id x, Strength.last? lines id = some x ↔ ∃ before line after,
      lines = before ++ line :: after ∧ Strength.Gives line id x ∧
        ∀ l ∈ after, ∀ y, ¬Strength.Gives l id y) ∧
    (∀ id x, Strength.last? lines id = some x → Strength.IsFirstBound x (Strength.bucket x)) ∧
    (∀ x y : Binary64, x.le y = true → Strength.bucket x ≤ Strength.bucket y) ∧
    shown.2.2 = lines.countP (Counts g) := by
  intro shown
  have hcounts : Counts (clearResults g) = Counts g :=
    funext fun l => by simp only [Counts, keys_clearResults]
  refine ⟨rfl, graph_setStrengths o g lines, fun id x => Strength.last?_eq_some_iff,
    fun id x h => Strength.isFirstBound_bucket (Strength.le_of_last? h),
    fun x y => Strength.bucket_mono, ?_⟩
  refine (snd_foldl_showStrength lines (clearResults g, 0)).trans ?_
  simp only [hcounts, Nat.zero_add]

/-- Three of six lines count.  Two of them name the same argument, the second one with a capital
letter and blanks, and without a digit in front of the point. -/
theorem setStrengths_reads_repeated :
    let g : Graph := { nodes := ["a", "b", "c"].map fun id => ⟨id, { id }⟩ }
    let lines := ["a:0.5", "B:1", "c:1.5", "junk", "ghost:0.2", " A:.25 "]
    let shown := ({} : Overlay).setStrengths g lines
    lines.countP (Counts g) = 3 ∧ shown.2.2 = 3 ∧
      shown.2.1.arguments.map (fun a => (a.strength, a.appearance)) =
        [(some (1 / 4), .strength 7), (some 1, .strength 28), (none, .plain)] ∧
      (∃ before line after, lines = before ++ line :: after ∧ Strength.Gives line "a" (1 / 4) ∧
        ∀ l ∈ after, ∀ y, ¬Strength.Gives l "a" y) ∧
      Strength.IsFirstBound (1 / 4) 7 := by
  intro g lines shown
  obtain ⟨-, -, hlast, hbucket, -, hcount⟩ := setStrengths_reads {} g lines
  have ha : Strength.last? lines "a" = some (1 / 4) := by decide +kernel
  have hquarter : Strength.bucket (1 / 4) = 7 := by decide +kernel
  have hfirst := hbucket "a" (1 / 4) ha
  rw [hquarter] at hfirst
  have hthree : lines.countP (Counts g) = 3 := by decide +kernel
  exact ⟨hthree, hcount.trans hthree, by decide +kernel, (hlast "a" (1 / 4)).1 ha, hfirst⟩

end Overlay

end Argumentation
