import Argumentation.Description.Canonical
import Argumentation.Proofs.Description.Accepted
import Argumentation.Proofs.Number.RoundTrip
import Argumentation.Proofs.Statement
import Argumentation.Proofs.Text.Trimming

/-!
# Descriptions that are written and read

A description that lists entries one on each line is read back as the framework in which
these entries are declared (`parse_listing`), if the entries keep to the limits of the
reader.  Identifiers of letters and digits and the written forms of numbers hold neither
blanks nor commas nor parentheses, so a line falls apart into the fields it was made of.

Blanks around a description are not read (`parse_trim`).
-/

namespace Argumentation

open Text

/-! ## Fields -/

/-- Whether a character is neither a blank nor a mark of the notation. -/
def IsFieldChar (c : Char) : Prop := isBlank c = false ∧ c ≠ ',' ∧ c ≠ '(' ∧ c ≠ ')'

theorem isFieldChar_of_isAlphanumeric {c : Char} (h : isAlphanumeric c = true) :
    IsFieldChar c := by
  refine ⟨isBlank_of_isAlphanumeric h, ?_, ?_, ?_⟩
  all_goals
    rintro rfl
    revert h
    decide

theorem isFieldChar_of_mem_toText {x : Binary64} (h : x.isNan = false) {c : Char}
    (hc : c ∈ x.toText.toList) : IsFieldChar c := by
  cases Binary64.mem_toText h hc with
  | inl hdigit => exact isFieldChar_of_isAlphanumeric (by simp [isAlphanumeric, hdigit])
  | inr hmark =>
    simp only [List.mem_cons, List.not_mem_nil, or_false] at hmark
    rcases hmark with rfl | rfl | rfl | rfl | rfl
    · exact ⟨by decide, by decide, by decide, by decide⟩
    · exact ⟨by decide, by decide, by decide, by decide⟩
    · exact isFieldChar_of_isAlphanumeric (by decide)
    · exact isFieldChar_of_isAlphanumeric (by decide)
    · exact isFieldChar_of_isAlphanumeric (by decide)

/-! ## Statements -/

namespace Statement

/-- Fields without blanks and commas are found again. -/
theorem splitFields_of_isFieldChar {fields : List String} (hne : fields ≠ [])
    (h : ∀ f ∈ fields, ∀ c ∈ f.toList, IsFieldChar c) :
    splitFields (String.intercalate "," fields).toList = fields := by
  have hcomma : ",".toList = [','] := by decide
  have hpieces : ∀ f ∈ fields.map String.toList, ',' ∉ f :=
    List.forall_mem_map.2 fun f hf hmem => (h f hf _ hmem).2.1 rfl
  have hfield : ∀ f ∈ fields, String.ofList (trimChars f.toList) = f := by
    intro f hf
    rw [trimChars_eq_self (trimmed_of_forall fun c hc => (h f hf c hc).1), String.ofList_toList]
  rw [String.toList_intercalate, hcomma, splitFields_intercalate (by simpa using hne) hpieces,
    List.map_map]
  exact (List.map_congr_left hfield).trans (List.map_id _)

end Statement

namespace Description

variable {limits : Limits}

theorem isFieldChar_of_mem_fields {names : List String} {weight : Option Binary64}
    (hnames : ∀ n ∈ names, ∀ c ∈ n.toList, IsFieldChar c) (hweight : Binary64.IsNumber weight) :
    ∀ f ∈ names ++ (weight.map Binary64.toText).toList, ∀ c ∈ f.toList, IsFieldChar c := by
  intro f hf
  cases List.mem_append.1 hf with
  | inl hname => exact hnames f hname
  | inr htext =>
    obtain ⟨x, hx, rfl⟩ := Option.map_eq_some_iff.1 (Option.mem_toList.1 htext)
    exact fun c hc => isFieldChar_of_mem_toText (hweight x hx) hc

theorem toList_statement (keyword : String) (names : List String) (weight : Option Binary64) :
    (statement keyword names weight).toList =
      keyword.toList ++ '(' :: (fields names weight).toList ++ [')', '.'] := by
  simp [statement]

theorem mem_toList_fields {names : List String} {weight : Option Binary64}
    (hnames : ∀ n ∈ names, ∀ c ∈ n.toList, IsFieldChar c) (hweight : Binary64.IsNumber weight)
    {c : Char} (hc : c ∈ (fields names weight).toList) : c = ',' ∨ IsFieldChar c := by
  rw [fields, String.toList_intercalate] at hc
  obtain hcomma | ⟨l, hl, hc⟩ := mem_of_mem_intercalate hc
  · exact Or.inl (by simpa using hcomma)
  · obtain ⟨f, hf, rfl⟩ := List.mem_map.1 hl
    exact Or.inr (isFieldChar_of_mem_fields hnames hweight f hf c hc)

section Statement

variable {keyword : String} {names : List String} {weight : Option Binary64}

/-- A statement is a single line without blanks at its ends. -/
theorem trimmed_statement (hletters : keyword.toList.all Statement.isLetter = true)
    (hnames : ∀ n ∈ names, ∀ c ∈ n.toList, IsFieldChar c) (hweight : Binary64.IsNumber weight) :
    '\n' ∉ (statement keyword names weight).toList ∧
      Trimmed (statement keyword names weight).toList ∧
      (statement keyword names weight).toList ≠ [] := by
  have hkeyword : ∀ c ∈ keyword.toList, isBlank c = false := by
    intro c hc
    have hletter := List.all_eq_true.1 hletters c hc
    refine (isFieldChar_of_isAlphanumeric ?_).1
    rw [isAlphanumeric, Bool.or_assoc]
    exact Bool.or_eq_true_iff.2 (Or.inr hletter)
  have hblank : ∀ c ∈ (statement keyword names weight).toList, isBlank c = false := by
    intro c hc
    rw [toList_statement, List.mem_append, List.mem_append, List.mem_cons] at hc
    rcases hc with (hc | rfl | hc) | hc
    · exact hkeyword c hc
    · decide
    · cases mem_toList_fields hnames hweight hc with
      | inl hcomma => subst hcomma; decide
      | inr hfield => exact hfield.1
    · simp only [List.mem_cons, List.not_mem_nil, or_false] at hc
      rcases hc with rfl | rfl <;> decide
  refine ⟨fun hmem => ?_, trimmed_of_forall hblank, ?_⟩
  · exact absurd (hblank _ hmem) (by decide)
  · rw [toList_statement]
    simp

/-- A statement is read as its keyword and its fields. -/
theorem ofLine_statement (hne : keyword.toList ≠ [])
    (hletters : keyword.toList.all Statement.isLetter = true) (hnames_ne : names ≠ [])
    (hnames : ∀ n ∈ names, ∀ c ∈ n.toList, IsFieldChar c) (hweight : Binary64.IsNumber weight) :
    Statement.ofLine (statement keyword names weight) =
      Statement.ofFields keyword (names ++ (weight.map Binary64.toText).toList) := by
  have hparens : ∀ c ∈ (fields names weight).toList, c ≠ '(' ∧ c ≠ ')' := by
    intro c hc
    cases mem_toList_fields hnames hweight hc with
    | inl hcomma => subst hcomma; decide
    | inr hfield => exact hfield.2.2
  have hsplit : Statement.splitCall? (statement keyword names weight).toList =
      some (keyword.toList, (fields names weight).toList) := by
    refine Statement.splitCall?_eq_some_iff.2 ⟨⟨hne, hletters, hparens⟩, [], ?_, ?_⟩
    · exact List.forall_mem_nil _
    · rw [toList_statement]
      simp
  rw [Statement.ofLine, trimChars_eq_self (trimmed_statement hletters hnames hweight).2.1, hsplit]
  simp only
  rw [String.ofList_toList, fields, Statement.splitFields_of_isFieldChar]
  · simp [hnames_ne]
  · exact isFieldChar_of_mem_fields hnames hweight

end Statement

/-! ## Statements of entries -/

/-- The statement that declares an argument. -/
def argumentStatement (e : String × Option Binary64) : Statement :=
  .argument e.1 (e.2.map Binary64.toText)

/-- The statement that declares a relation. -/
def relationStatement (e : RelationKey × Option Binary64) : Statement :=
  .relation e.1.kind e.1.source e.1.target (e.2.map Binary64.toText)

theorem ofLine_argumentLine {e : String × Option Binary64}
    (hid : ∀ c ∈ e.1.toList, IsFieldChar c) (hweight : Binary64.IsNumber e.2) :
    Statement.ofLine (argumentLine e.1 e.2) = argumentStatement e := by
  rw [argumentLine, ofLine_statement (by decide) (by decide) (by simp) (by simpa using hid) hweight]
  cases hw : e.2 with
  | none => simp [argumentStatement, hw, Statement.ofFields]
  | some x => simp [argumentStatement, hw, Statement.ofFields]

theorem ofLine_relationLine {e : RelationKey × Option Binary64}
    (hsource : ∀ c ∈ e.1.source.toList, IsFieldChar c)
    (htarget : ∀ c ∈ e.1.target.toList, IsFieldChar c) (hweight : Binary64.IsNumber e.2) :
    Statement.ofLine (relationLine e.1 e.2) = relationStatement e := by
  rw [relationLine, ofLine_statement _ _ (by simp) (by simpa using ⟨hsource, htarget⟩) hweight]
  · cases hk : e.1.kind <;> cases hw : e.2 <;>
      simp [relationStatement, hk, hw, Statement.ofFields, RelationKind.keyword]
  · cases e.1.kind <;> decide
  · cases e.1.kind <;> decide

/-! ## Listings -/

/-- The statements of a listing of arguments and relations. -/
def listingStatements (arguments : Assoc String (Option Binary64))
    (relations : Assoc RelationKey (Option Binary64)) : List Statement :=
  arguments.map argumentStatement ++ relations.map relationStatement

/-- Entries that a description within limits can list. -/
structure Listable (limits : Limits) (arguments : Assoc String (Option Binary64))
    (relations : Assoc RelationKey (Option Binary64)) : Prop where
  /-- Identifiers are canonical. -/
  canonical : ∀ id ∈ arguments.keys, IsCanonical id
  /-- Identifiers are valid. -/
  valid : ∀ id ∈ arguments.keys, validateIdentifier limits id = .ok ()
  /-- A relation joins listed arguments. -/
  joined : ∀ key ∈ relations.keys, key.source ∈ arguments.keys ∧ key.target ∈ arguments.keys
  /-- The weights of arguments lie in their range. -/
  nodeWeights : ∀ e ∈ arguments, checkWeight limits .node e.2 = .ok ()
  /-- The weights of relations lie in their range. -/
  edgeWeights : ∀ e ∈ relations, checkWeight limits .edge e.2 = .ok ()

theorem listable_of_meets {f : Framework} (meets : f.Meets limits) :
    Listable limits f.arguments f.relations :=
  ⟨meets.canonical, meets.valid, meets.joined, meets.nodeWeights, meets.edgeWeights⟩

/-! ## Lines -/

theorem lines_eq (text : String) :
    lines text =
      ((retained text.toList).map String.ofList).mapIdx fun i l => (⟨i + 1, l⟩ : Line) := by
  have htrim : ((Text.lines text).map Text.trim) =
      ((lineChars text.toList).map trimChars).map String.ofList := by
    rw [Text.lines, List.map_map, List.map_map]
    exact List.map_congr_left fun cs _ => by simp [Text.trim]
  have hkeep (ls : List (List Char)) :
      (ls.map String.ofList).filter (· ≠ "") = (ls.filter (· ≠ [])).map String.ofList := by
    rw [List.filter_map]
    refine congrArg _ (List.filter_congr fun cs _ => ?_)
    simp
  rw [lines, htrim, hkeep, retained]

/-- Blanks around a description make no difference to its lines. -/
theorem lines_trim (text : String) : lines (Text.trim text) = lines text := by
  rw [lines_eq, lines_eq, toList_trim, retained_trimChars]

/-- Blanks around a description make no difference to what it says. -/
theorem parse_trim (text : String) : parse limits (Text.trim text) = parse limits text := by
  rw [parse, lines_trim, parse]

/-- Lines that are trimmed and not blank are the lines of their text. -/
theorem lines_intercalate {ls : List String}
    (h : ∀ l ∈ ls, '\n' ∉ l.toList ∧ Trimmed l.toList ∧ l.toList ≠ []) :
    lines (String.intercalate "\n" ls) = ls.mapIdx fun i l => (⟨i + 1, l⟩ : Line) := by
  have hfeed : "\n".toList = ['\n'] := by decide
  have hpieces : ∀ cs ∈ ls.map String.toList, '\n' ∉ cs ∧ Trimmed cs ∧ cs ≠ [] := by
    intro cs hcs
    obtain ⟨l, hl, rfl⟩ := List.mem_map.1 hcs
    exact h l hl
  rw [lines_eq, String.toList_intercalate, hfeed, retained_intercalate hpieces, List.map_map]
  have hid : String.ofList ∘ String.toList = id := funext fun _ => String.ofList_toList
  rw [hid, List.map_id]

theorem map_text_mapIdx (ls : List String) :
    (ls.mapIdx fun i l => (⟨i + 1, l⟩ : Line)).map (·.text) = ls := by
  rw [List.mapIdx_eq_zipIdx_map, List.map_map]
  exact List.zipIdx_map_fst 0 ls

/-! ## Reading a listing -/

section Listing

variable {arguments : Assoc String (Option Binary64)}
  {relations : Assoc RelationKey (Option Binary64)}

theorem Listable.isFieldChar (h : Listable limits arguments relations) {id : String}
    (hid : id ∈ arguments.keys) {c : Char} (hc : c ∈ id.toList) : IsFieldChar c := by
  have hchars := (validateIdentifier_eq_ok_iff.1 (h.valid id hid)).2.2
  have hcanonical : canonicalId id = id := h.canonical id hid
  have htrimmed := trimmed_canonicalId id
  rw [hcanonical] at htrimmed
  rw [trimChars_eq_self htrimmed] at hchars
  exact isFieldChar_of_isAlphanumeric (hchars c hc)

theorem Listable.ofLine (h : Listable limits arguments relations) :
    (listingLines arguments relations).map Statement.ofLine =
      listingStatements arguments relations := by
  rw [listingLines, listingStatements, List.map_append, List.map_map, List.map_map]
  refine congrArg₂ (· ++ ·) (List.map_congr_left fun e he => ?_)
    (List.map_congr_left fun e he => ?_)
  · have hid : e.1 ∈ arguments.keys := List.mem_map_of_mem he
    rw [Function.comp_apply]
    exact ofLine_argumentLine (fun c => h.isFieldChar hid)
      (isNumber_of_checkWeight (h.nodeWeights e he))
  · obtain ⟨hsource, htarget⟩ := h.joined e.1 (List.mem_map_of_mem he)
    rw [Function.comp_apply]
    exact ofLine_relationLine (fun c => h.isFieldChar hsource) (fun c => h.isFieldChar htarget)
      (isNumber_of_checkWeight (h.edgeWeights e he))

theorem Listable.lines (h : Listable limits arguments relations) :
    Description.lines (String.intercalate "\n" (listingLines arguments relations)) =
      (listingLines arguments relations).mapIdx fun i l => (⟨i + 1, l⟩ : Line) := by
  refine lines_intercalate fun l hl => ?_
  cases List.mem_append.1 hl with
  | inl hargument =>
    obtain ⟨e, he, rfl⟩ := List.mem_map.1 hargument
    have hid : e.1 ∈ arguments.keys := List.mem_map_of_mem he
    rw [argumentLine]
    refine trimmed_statement (by decide) ?_ (isNumber_of_checkWeight (h.nodeWeights e he))
    simpa using fun c => h.isFieldChar hid
  | inr hrelation =>
    obtain ⟨e, he, rfl⟩ := List.mem_map.1 hrelation
    obtain ⟨hsource, htarget⟩ := h.joined e.1 (List.mem_map_of_mem he)
    rw [relationLine]
    refine trimmed_statement ?_ ?_ (isNumber_of_checkWeight (h.edgeWeights e he))
    · cases e.1.kind <;> decide
    · simpa using ⟨fun c => h.isFieldChar hsource, fun c => h.isFieldChar htarget⟩

/-- A weight in its range is read back from its written form. -/
theorem validateWeight_toText {kind : WeightKind} {w : Option Binary64}
    (h : checkWeight limits kind w = .ok ()) :
    validateWeight limits kind (w.map Binary64.toText) = .ok w := by
  cases w with
  | none => rfl
  | some x =>
    have hnumber : x.isNan = false := isNumber_of_checkWeight h x rfl
    have htrimmed : Trimmed x.toText.toList :=
      trimmed_of_forall fun c hc => (isFieldChar_of_mem_toText hnumber hc).1
    have htrim : Text.trim x.toText = x.toText := by
      rw [Text.trim, trimChars_eq_self htrimmed, String.ofList_toList]
    rw [Option.map_some, validateWeight, htrim, Binary64.ofText?_toText hnumber]
    simp only [h]

theorem weightOf_toText {kind : WeightKind} {w : Option Binary64}
    (h : checkWeight limits kind w = .ok ()) :
    weightOf limits kind (w.map Binary64.toText) = w := by
  rw [weightOf, validateWeight_toText h]

theorem Listable.argumentEntries (h : Listable limits arguments relations) :
    argumentEntries limits (listingStatements arguments relations) = arguments := by
  have harguments : arguments.filterMap (argumentOf? limits ∘ argumentStatement) = arguments := by
    conv_rhs => rw [← List.filterMap_some (l := arguments)]
    refine List.filterMap_congr fun e he => ?_
    have hcanonical : canonicalId e.1 = e.1 := h.canonical e.1 (List.mem_map_of_mem he)
    rw [Function.comp_apply, argumentStatement, argumentOf?, hcanonical,
      weightOf_toText (h.nodeWeights e he)]
  have hrelations : relations.filterMap (argumentOf? limits ∘ relationStatement) = [] :=
    List.filterMap_eq_nil_iff.2 fun _ _ => rfl
  rw [Description.argumentEntries, listingStatements, List.filterMap_append, List.filterMap_map,
    List.filterMap_map, harguments, hrelations, List.append_nil]

theorem Listable.relationEntries (h : Listable limits arguments relations) (kind : RelationKind) :
    relationEntries limits kind (listingStatements arguments relations) =
      Framework.endsOf kind relations := by
  have harguments : arguments.filterMap (relationOf? limits kind ∘ argumentStatement) = [] :=
    List.filterMap_eq_nil_iff.2 fun _ _ => rfl
  rw [Description.relationEntries, listingStatements, List.filterMap_append, List.filterMap_map,
    List.filterMap_map, harguments, List.nil_append, Framework.endsOf, ← List.filterMap_eq_filter,
    List.map_filterMap]
  refine List.filterMap_congr fun e he => ?_
  obtain ⟨hsource, htarget⟩ := h.joined e.1 (List.mem_map_of_mem he)
  have hs : canonicalId e.1.source = e.1.source := h.canonical _ hsource
  have ht : canonicalId e.1.target = e.1.target := h.canonical _ htarget
  rw [Function.comp_apply, relationStatement, relationOf?, hs, ht,
    weightOf_toText (h.edgeWeights e he), Option.guard]
  split
  · next hk => simp [hk]
  · next hk => simp [hk]

/-- The statements of a listing are accepted. -/
theorem Listable.inLanguage (h : Listable limits arguments relations) :
    InLanguage limits (listingStatements arguments relations) := by
  intro st hst
  rw [h.argumentEntries]
  cases List.mem_append.1 hst with
  | inl hargument =>
    obtain ⟨e, he, rfl⟩ := List.mem_map.1 hargument
    exact ⟨h.valid e.1 (List.mem_map_of_mem he), e.2, validateWeight_toText (h.nodeWeights e he)⟩
  | inr hrelation =>
    obtain ⟨e, he, rfl⟩ := List.mem_map.1 hrelation
    obtain ⟨hsource, htarget⟩ := h.joined e.1 (List.mem_map_of_mem he)
    have hs : canonicalId e.1.source = e.1.source := h.canonical _ hsource
    have ht : canonicalId e.1.target = e.1.target := h.canonical _ htarget
    refine ⟨h.valid _ hsource, h.valid _ htarget,
      ⟨e.2, validateWeight_toText (h.edgeWeights e he)⟩, ?_, ?_⟩
    · rwa [hs]
    · rwa [ht]

/-- The framework of a listing is the one in which its entries are declared. -/
theorem Listable.framework (h : Listable limits arguments relations) :
    Description.framework limits (listingStatements arguments relations) =
      Framework.ofEntries arguments relations := by
  rw [framework_eq_ofEntries, h.argumentEntries]
  refine Framework.ofEntries_congr fun kind => ?_
  rw [keyedEntries, Framework.endsOf_withKind]
  cases kind with
  | attack => exact h.relationEntries .attack
  | support => exact h.relationEntries .support

end Listing

/-- A listing of entries within the limits is read as the framework of these entries. -/
theorem parse_listing {arguments : Assoc String (Option Binary64)}
    {relations : Assoc RelationKey (Option Binary64)} (h : Listable limits arguments relations) :
    parse limits (String.intercalate "\n" (listingLines arguments relations)) =
      .ok (Framework.ofEntries arguments relations) := by
  have hstatements : statements (String.intercalate "\n" (listingLines arguments relations)) =
      listingStatements arguments relations := by
    have htexts := congrArg (List.map Statement.ofLine)
      (map_text_mapIdx (listingLines arguments relations))
    rw [List.map_map] at htexts
    rw [statements, h.lines, ← h.ofLine]
    exact htexts
  rw [parse_eq, if_pos]
  · exact congrArg Except.ok ((congrArg _ hstatements).trans h.framework)
  · rw [diagnostics_eq_nil_iff_inLanguage, hstatements]
    exact h.inLanguage

/-- The canonical text of a framework within the limits is read as this framework. -/
theorem parse_toText {f : Framework} (meets : f.Meets limits) :
    parse limits f.toText = .ok f := by
  have hlisted := parse_listing (listable_of_meets meets)
  rwa [meets.toDistinct.ofEntries_eq] at hlisted

end Description

end Argumentation
