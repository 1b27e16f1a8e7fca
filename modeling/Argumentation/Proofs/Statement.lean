import Argumentation.Proofs.Text.Marks
import Argumentation.Proofs.Text.Trimming
import Argumentation.Statement
import Mathlib.Data.List.Basic

/-!
# The grammar of statements

A statement is written as a keyword with fields between parentheses and commas, with blanks and a
point behind them (`Call`).  The fields hold no marks of the notation, and each keyword takes
certain numbers of them (`Grammatical`).

A line is taken apart from both ends (`splitCall?_eq_some_iff`).  It is a statement if and only if
it is written in this way once it is trimmed.  It can be written so in one way only, and the
statement has the trimmed fields in their order, the weight last (`ofLine_recognizes`).
-/

namespace Argumentation

open Text

/-! ## Calls -/

/-- A keyword with fields, and what stands between the closing parenthesis and the point. -/
structure Call where
  /-- The keyword. -/
  keyword : String
  /-- The fields as they are written. -/
  fields : List String
  /-- What stands in front of the point. -/
  gap : String
  deriving DecidableEq

namespace Call

/-- The call as it is written. -/
def toText (call : Call) : String :=
  call.keyword ++ "(" ++ String.intercalate "," call.fields ++ ")" ++ call.gap ++ "."

/-- Whether a keyword takes a number of fields. -/
def Takes (keyword : String) (n : Nat) : Prop :=
  keyword = "arg" ∧ (n = 1 ∨ n = 2) ∨ (keyword = "att" ∨ keyword = "support") ∧ (n = 2 ∨ n = 3)

/-- Whether a character is no mark that stands around fields. -/
def IsPlain (c : Char) : Prop := c ≠ '(' ∧ c ≠ ')' ∧ c ≠ ','

/-- Whether a call belongs to the notation. -/
structure Grammatical (call : Call) : Prop where
  /-- The fields hold no marks. -/
  plain : ∀ f ∈ call.fields, ∀ c ∈ f.toList, IsPlain c
  /-- Only blanks stand in front of the point. -/
  blank : isBlankText call.gap = true
  /-- The keyword takes that many fields. -/
  takes : Takes call.keyword call.fields.length

/-- What a call says: its fields without surrounding blanks, with the weight in the last place. -/
inductive Says : Call → Statement → Prop
  /-- An argument that may have a weight. -/
  | argument (id : String) (weight : Option String) (gap : String) :
    Says ⟨"arg", id :: weight.toList, gap⟩ (.argument (trim id) (weight.map trim))
  /-- A relation that may have a weight. -/
  | relation (kind : RelationKind) (source target : String) (weight : Option String)
    (gap : String) :
    Says ⟨kind.keyword, source :: target :: weight.toList, gap⟩
      (.relation kind (trim source) (trim target) (weight.map trim))

/-- The characters of a call. -/
theorem toList_toText (call : Call) : call.toText.toList =
    call.keyword.toList ++ '(' :: List.intercalate [','] (call.fields.map String.toList) ++
      ')' :: call.gap.toList ++ ['.'] := by
  simp [toText]

end Call

namespace Statement

/-! ## Taking lines apart -/

theorem stripLast?_eq_some_iff {c : Char} {cs ds : List Char} :
    stripLast? c cs = some ds ↔ cs = ds ++ [c] := by
  constructor
  · intro h
    unfold stripLast? at h
    split at h
    · next hlast =>
      obtain ⟨es, rfl⟩ := List.getLast?_eq_some_iff.1 hlast
      rw [List.dropLast_concat] at h
      rw [Option.some.inj h]
    · cases h
  · rintro rfl
    simp [stripLast?]

theorem not_mem_parenthesis {keyword : List Char} (h : keyword.all isLetter = true) :
    '(' ∉ keyword :=
  fun hmem => absurd (List.all_eq_true.1 h _ hmem) (by decide)

/-- What is in front of the point and of the blanks before it. -/
theorem trimRight_parenthesis (cs : List Char) {gap : List Char}
    (hgap : ∀ c ∈ gap, isBlank c = true) : trimRight (cs ++ ')' :: gap) = cs ++ [')'] := by
  have happend : cs ++ ')' :: gap = (cs ++ [')']) ++ gap := by simp
  rw [happend, trimRight_append hgap, trimRight_eq_self]
  intro c hc
  rw [List.getLast?_concat, Option.mem_some_iff] at hc
  rw [← hc]
  decide

/-- A keyword and what stands between parentheses are found if and only if the line is made of
them. -/
theorem splitCall?_eq_some_iff {line keyword fields : List Char} :
    splitCall? line = some (keyword, fields) ↔
      (keyword ≠ [] ∧ keyword.all isLetter = true ∧ ∀ c ∈ fields, c ≠ '(' ∧ c ≠ ')') ∧
      ∃ gap : List Char, (∀ c ∈ gap, isBlank c = true) ∧
        line = keyword ++ '(' :: fields ++ ')' :: gap ++ ['.'] := by
  constructor
  · intro h
    simp only [splitCall?, Option.bind_eq_bind, Option.bind_eq_some_iff,
      stripLast?_eq_some_iff] at h
    obtain ⟨body, rfl, call, hcall, h⟩ := h
    obtain ⟨gap, hgap, hbody⟩ := exists_trimRight_append body
    split at h
    · cases h
    · next p rest hdrop =>
      split at h
      · next hproper =>
        cases h
        have hp : p = '(' := by
          have hhead := List.head?_dropWhile_not (· ≠ '(') call
          rw [hdrop] at hhead
          simpa using hhead
        have hcall' : call = call.takeWhile (· ≠ '(') ++ '(' :: fields := by
          rw [hp] at hdrop
          rw [← hdrop, List.takeWhile_append_dropWhile]
        refine ⟨⟨hproper.1, hproper.2.1, fun c hc => ?_⟩, gap, hgap, ?_⟩
        · simpa using List.all_eq_true.1 hproper.2.2 c hc
        · rw [← hcall', hbody, hcall]
          simp
      · cases h
  · rintro ⟨⟨hne, hletters, hfields⟩, gap, hgap, rfl⟩
    obtain ⟨htake, hdrop⟩ := span_mark (not_mem_parenthesis hletters) fields
    have hbody :=
      stripLast?_eq_some_iff.2 (rfl : keyword ++ '(' :: fields ++ ')' :: gap ++ ['.'] = _)
    rw [splitCall?, hbody, Option.bind_eq_bind, Option.bind_some, trimRight_parenthesis _ hgap,
      stripLast?_eq_some_iff.2 rfl, Option.bind_some]
    simp only [htake, hdrop]
    rw [if_pos]
    refine ⟨hne, hletters, List.all_eq_true.2 fun c hc => ?_⟩
    simpa using hfields c hc

/-- The fields between commas are found. -/
theorem splitFields_intercalate {fields : List (List Char)} (hne : fields ≠ [])
    (h : ∀ f ∈ fields, ',' ∉ f) :
    splitFields (List.intercalate [','] fields) =
      fields.map fun f => String.ofList (trimChars f) := by
  rw [splitFields, List.splitOn_intercalate _ h hne]

/-! ## Keywords and fields -/

/-- A keyword with as many fields as it takes makes a statement. -/
theorem says_ofFields {call : Call} (h : Call.Takes call.keyword call.fields.length) :
    call.Says (ofFields call.keyword (call.fields.map trim)) := by
  obtain ⟨keyword, fields, gap⟩ := call
  obtain ⟨rfl, hlength⟩ | ⟨hkeyword, hlength⟩ := h
  · obtain hlength | hlength := hlength
    · obtain ⟨id, rfl⟩ := List.length_eq_one_iff.1 hlength
      exact .argument id none gap
    · obtain ⟨id, weight, rfl⟩ := List.length_eq_two.1 hlength
      exact .argument id (some weight) gap
  · obtain ⟨kind, rfl⟩ : ∃ kind : RelationKind, keyword = kind.keyword := by
      obtain rfl | rfl := hkeyword
      · exact ⟨.attack, rfl⟩
      · exact ⟨.support, rfl⟩
    obtain hlength | hlength := hlength
    · obtain ⟨source, target, rfl⟩ := List.length_eq_two.1 hlength
      cases kind with
      | attack => exact .relation .attack source target none gap
      | support => exact .relation .support source target none gap
    · obtain ⟨source, target, weight, rfl⟩ := List.length_eq_three.1 hlength
      cases kind with
      | attack => exact .relation .attack source target (some weight) gap
      | support => exact .relation .support source target (some weight) gap

/-- Nothing else makes a statement. -/
theorem takes_of_ofFields {keyword : String} {fields : List String}
    (h : ofFields keyword fields ≠ .unrecognized) : Call.Takes keyword fields.length := by
  unfold ofFields at h
  split at h
  · exact .inl ⟨rfl, .inl rfl⟩
  · exact .inl ⟨rfl, .inr rfl⟩
  · exact .inr ⟨.inl rfl, .inl rfl⟩
  · exact .inr ⟨.inl rfl, .inr rfl⟩
  · exact .inr ⟨.inr rfl, .inl rfl⟩
  · exact .inr ⟨.inr rfl, .inr rfl⟩
  · exact absurd rfl h

end Statement

/-! ## Calls that are found again -/

namespace Call

variable {call other : Call} {line : String}

theorem Takes.keyword_letters {keyword : String} {n : Nat} (h : Takes keyword n) :
    keyword.toList ≠ [] ∧ keyword.toList.all Statement.isLetter = true := by
  obtain ⟨rfl, -⟩ | ⟨rfl | rfl, -⟩ := h <;> decide

theorem Takes.fields_ne_nil {keyword : String} {fields : List String}
    (h : Takes keyword fields.length) : fields ≠ [] := by
  rintro rfl
  obtain ⟨-, h⟩ | ⟨-, h⟩ := h <;> exact absurd h (by decide)

theorem Says.ne_unrecognized {st : Statement} (h : call.Says st) : st ≠ .unrecognized := by
  cases h <;> exact Statement.noConfusion

namespace Grammatical

/-- What stands between the parentheses holds no parenthesis. -/
theorem ne_parenthesis (grammatical : call.Grammatical) {c : Char}
    (hc : c ∈ List.intercalate [','] (call.fields.map String.toList)) : c ≠ '(' ∧ c ≠ ')' := by
  obtain hcomma | ⟨l, hl, hc⟩ := mem_of_mem_intercalate hc
  · rw [List.mem_singleton.1 hcomma]
    decide
  · obtain ⟨f, hf, rfl⟩ := List.mem_map.1 hl
    obtain ⟨hleft, hright, -⟩ := grammatical.plain f hf c hc
    exact ⟨hleft, hright⟩

theorem splitCall?_toText (grammatical : call.Grammatical) :
    Statement.splitCall? call.toText.toList =
      some (call.keyword.toList, List.intercalate [','] (call.fields.map String.toList)) := by
  obtain ⟨hne, hletters⟩ := grammatical.takes.keyword_letters
  exact Statement.splitCall?_eq_some_iff.2
    ⟨⟨hne, hletters, fun c hc => grammatical.ne_parenthesis hc⟩, call.gap.toList,
      List.all_eq_true.1 grammatical.blank, call.toList_toText⟩

theorem not_mem_comma (grammatical : call.Grammatical) :
    ∀ f ∈ call.fields.map String.toList, ',' ∉ f := by
  refine List.forall_mem_map.2 fun f hf hcomma => ?_
  exact (grammatical.plain f hf ',' hcomma).2.2 rfl

theorem map_toList_ne_nil (grammatical : call.Grammatical) :
    call.fields.map String.toList ≠ [] := by
  rw [Ne, List.map_eq_nil_iff]
  exact grammatical.takes.fields_ne_nil

/-- A line that is written as a call is read as its keyword and its trimmed fields. -/
theorem ofLine (grammatical : call.Grammatical) (h : trim line = call.toText) :
    Statement.ofLine line = Statement.ofFields call.keyword (call.fields.map trim) := by
  rw [Statement.ofLine, ← toList_trim, h, grammatical.splitCall?_toText]
  simp only
  rw [Statement.splitFields_intercalate grammatical.map_toList_ne_nil grammatical.not_mem_comma,
    String.ofList_toList, List.map_map]
  rfl

/-- Two calls that are written the same way are the same. -/
theorem eq (grammatical : call.Grammatical) (hother : other.Grammatical)
    (h : call.toText = other.toText) : call = other := by
  have hsplit := grammatical.splitCall?_toText
  rw [h, hother.splitCall?_toText, Option.some.injEq, Prod.mk.injEq] at hsplit
  obtain ⟨hkeyword, hfields⟩ := hsplit
  have hpieces : call.fields.map String.toList = other.fields.map String.toList := by
    rw [← List.splitOn_intercalate _ grammatical.not_mem_comma grammatical.map_toList_ne_nil,
      ← hfields, List.splitOn_intercalate _ hother.not_mem_comma hother.map_toList_ne_nil]
  have hgap : call.gap.toList = other.gap.toList := by
    have htext := congrArg String.toList h
    rw [toList_toText, toList_toText, hkeyword, hfields] at htext
    exact List.cons.inj (List.append_cancel_left (List.append_cancel_right htext)) |>.2
  obtain ⟨keyword, fields, gap⟩ := call
  rw [mk.injEq]
  exact ⟨String.toList_inj.1 hkeyword.symm,
    List.map_injective_iff.2 (fun _ _ => String.toList_inj.1) hpieces, String.toList_inj.1 hgap⟩

end Grammatical

/-- A line that is a statement is written as a call. -/
theorem exists_of_ofLine (h : Statement.ofLine line ≠ .unrecognized) :
    ∃ call : Call, call.Grammatical ∧ trim line = call.toText := by
  unfold Statement.ofLine at h
  split at h
  · next keyword fields hsplit =>
    obtain ⟨⟨-, -, hparen⟩, gap, hgap, hline⟩ := Statement.splitCall?_eq_some_iff.1 hsplit
    have htakes := Statement.takes_of_ofFields h
    rw [Statement.splitFields, List.length_map] at htakes
    refine ⟨⟨String.ofList keyword, (fields.splitOn ',').map String.ofList, String.ofList gap⟩,
      ⟨?_, ?_, ?_⟩, ?_⟩
    · refine List.forall_mem_map.2 fun f hf c hc => ?_
      rw [String.toList_ofList] at hc
      have hmem : c ∈ fields := by
        have hjoined : [','].intercalate (fields.splitOn ',') = fields :=
          List.intercalate_splitOn ','
        rw [← hjoined]
        exact mem_intercalate_of_mem hf hc
      refine ⟨(hparen c hmem).1, (hparen c hmem).2, ?_⟩
      rintro rfl
      exact not_mem_of_mem_splitOn hf hc
    · rw [isBlankText, String.toList_ofList]
      exact List.all_eq_true.2 hgap
    · rwa [List.length_map]
    · rw [← String.toList_inj, toList_trim, hline, toList_toText]
      simp [Function.comp_def, List.intercalate_splitOn]
  · exact absurd rfl h

end Call

namespace Statement

/-- A line is a statement if and only if it is, once it is trimmed, a keyword with as many fields
as it takes.  There is then only one way in which it is written, and the statement says what the
fields say. -/
theorem ofLine_recognizes (line : String) :
    (ofLine line ≠ .unrecognized ↔ ∃ call : Call, call.Grammatical ∧ trim line = call.toText) ∧
      ∀ call : Call, call.Grammatical → trim line = call.toText →
        call.Says (ofLine line) ∧
          ∀ other : Call, other.Grammatical → trim line = other.toText → other = call := by
  have hmeant {call : Call} (grammatical : call.Grammatical) (h : trim line = call.toText) :
      call.Says (ofLine line) := by
    rw [grammatical.ofLine h]
    exact says_ofFields grammatical.takes
  refine ⟨⟨Call.exists_of_ofLine, ?_⟩, fun call grammatical h => ⟨hmeant grammatical h, ?_⟩⟩
  · rintro ⟨call, grammatical, h⟩
    exact (hmeant grammatical h).ne_unrecognized
  · exact fun other hother hline => hother.eq grammatical (hline.symm.trans h)

/-- Blanks stand around fields and in front of the point, and a weight has a point of its own. -/
theorem ofLine_recognizes_spaced :
    let call : Call := ⟨"att", [" a ", " b.c", "0.5 "], " "⟩
    call.Grammatical ∧ trim "\tatt( a , b.c,0.5 ) . " = call.toText ∧
      call.Says (.relation .attack "a" "b.c" (some "0.5")) := by
  intro call
  have grammatical : call.Grammatical := by
    have hplain : (call.fields.all fun f =>
        f.toList.all fun c => c ≠ '(' && c ≠ ')' && c ≠ ',') = true := by decide +kernel
    refine ⟨fun f hf c hc => ?_, by decide +kernel, .inr ⟨.inl rfl, .inr rfl⟩⟩
    simpa [Call.IsPlain, and_assoc] using
      List.all_eq_true.1 (List.all_eq_true.1 hplain f hf) c hc
  have htext : trim "\tatt( a , b.c,0.5 ) . " = call.toText := by decide +kernel
  have hline : ofLine "\tatt( a , b.c,0.5 ) . " = .relation .attack "a" "b.c" (some "0.5") := by
    decide +kernel
  exact ⟨grammatical, htext, hline ▸ ((ofLine_recognizes _).2 call grammatical htext).1⟩

end Statement

end Argumentation
