/-!
# Blanks, lines and words

Classes of characters are kept as lists of ranges of code points, as the Unicode
standard lists them.  `memRanges_iff` says what membership means.

Blanks are the characters with the Unicode property `White_Space`.  A text is
trimmed of blanks at both ends, cut into lines at line feeds, or cut into words
at runs of blanks.

`trimLeft_eq_nil_iff` and `trimRight_eq_nil_iff` say that only a blank text is
trimmed to nothing.
-/

namespace Argumentation.Text

/-! ## Ranges of characters -/

/-- A range of code points, both ends included. -/
abbrev Range := Nat × Nat

/-- Whether a character lies in one of the ranges. -/
def memRanges (ranges : List Range) (c : Char) : Bool :=
  ranges.any fun r => r.1 ≤ c.toNat && c.toNat ≤ r.2

theorem memRanges_iff {ranges : List Range} {c : Char} :
    memRanges ranges c = true ↔ ∃ r ∈ ranges, r.1 ≤ c.toNat ∧ c.toNat ≤ r.2 := by
  simp [memRanges]

/-! ## Blanks -/

/-- The property `White_Space`. -/
def blankRanges : List Range :=
  [(0x9, 0xD), (0x20, 0x20), (0x85, 0x85), (0xA0, 0xA0), (0x1680, 0x1680), (0x2000, 0x200A),
   (0x2028, 0x2029), (0x202F, 0x202F), (0x205F, 0x205F), (0x3000, 0x3000)]

/-- Whether a character is a blank. -/
def isBlank (c : Char) : Bool := memRanges blankRanges c

/-- Whether a text holds nothing but blanks. -/
def isBlankText (s : String) : Bool := s.toList.all isBlank

/-! ## Trimming -/

/-- The characters without the blanks in front. -/
def trimLeft (cs : List Char) : List Char := cs.dropWhile isBlank

/-- The characters without the blanks behind. -/
def trimRight (cs : List Char) : List Char := (cs.reverse.dropWhile isBlank).reverse

/-- The characters without the blanks at both ends. -/
def trimChars (cs : List Char) : List Char := trimRight (trimLeft cs)

/-- The text without the blanks at both ends. -/
def trim (s : String) : String := String.ofList (trimChars s.toList)

@[simp] theorem toList_trim (s : String) : (trim s).toList = trimChars s.toList := by
  simp [trim]

/-! ## Lines -/

/-- A line without the carriage return that stands before its line feed. -/
def dropReturn (cs : List Char) : List Char :=
  if cs.getLast? = some '\r' then cs.dropLast else cs

/-- The lines of a text.  A line ends at a line feed, which takes one carriage
return before it away, or at the end of the text.  A text that ends in a line feed
has no empty line after it. -/
def lineChars : List Char → List (List Char)
  | cs => go [] cs
where
  /-- The lines, the first of which begins with the given characters in reverse. -/
  go (line : List Char) : List Char → List (List Char)
    | [] => if line = [] then [] else [line.reverse]
    | '\n' :: cs => dropReturn line.reverse :: go [] cs
    | c :: cs => go (c :: line) cs

/-- The lines of a text. -/
def lines (s : String) : List String := (lineChars s.toList).map String.ofList

/-! ## Words -/

/-- The words of a text: its longest stretches without a blank. -/
def wordChars : List Char → List (List Char)
  | cs => go [] cs
where
  /-- The words, the first of which begins with the given characters in reverse. -/
  go (word : List Char) : List Char → List (List Char)
    | [] => if word = [] then [] else [word.reverse]
    | c :: cs =>
      if isBlank c then if word = [] then go [] cs else word.reverse :: go [] cs
      else go (c :: word) cs

/-- The words of a text. -/
def words (s : String) : List String := (wordChars s.toList).map String.ofList

/-! ## Laws of trimming -/

theorem trimLeft_eq_nil_iff {cs : List Char} : trimLeft cs = [] ↔ ∀ c ∈ cs, isBlank c = true := by
  induction cs with
  | nil => exact ⟨fun _ c hc => absurd hc List.not_mem_nil, fun _ => rfl⟩
  | cons c cs ih =>
    rw [List.forall_mem_cons]
    by_cases h : isBlank c = true
    · rw [trimLeft, List.dropWhile_cons_of_pos h]
      exact ⟨fun hs => ⟨h, ih.1 hs⟩, fun hs => ih.2 hs.2⟩
    · rw [trimLeft, List.dropWhile_cons_of_neg h]
      exact ⟨fun hs => absurd hs (List.cons_ne_nil _ _), fun hs => absurd hs.1 h⟩

theorem trimRight_eq_nil_iff {cs : List Char} :
    trimRight cs = [] ↔ ∀ c ∈ cs, isBlank c = true := by
  rw [trimRight, List.reverse_eq_nil_iff]
  exact trimLeft_eq_nil_iff.trans ⟨fun h c hc => h c (List.mem_reverse.2 hc),
    fun h c hc => h c (List.mem_reverse.1 hc)⟩

example : lines "a\r\n\nb\r" = ["a", "", "b\r"] := by decide +kernel
example : words " a  b\t" = ["a", "b"] := by decide +kernel
example : trim "\t a b\n" = "a b" := by decide +kernel

end Argumentation.Text
