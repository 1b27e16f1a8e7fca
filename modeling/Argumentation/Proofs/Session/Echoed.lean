import Argumentation.Proofs.Overlay.Selection
import Argumentation.Proofs.Session.Run

/-!
# Labelings that come back

A request to filter labelings sends the words of each row, and the rows of the reply are joined from
words.  A labeling that comes back as it was sent has single spaces where there were blanks of any
kind, but its literals are the same (`Labeling.parse_words`).  So it makes no difference to a graph
whether the labeling is selected among those that were computed or among those that came back
(`filterLabelings_echo`, `selectLabeling_echo`).

Main statement: `literals_read_back`.
-/

namespace Argumentation

/-! ## Replies that repeat the request -/

/-- The reply that sends all labelings back as they came. -/
def FilterRequest.echo (r : FilterRequest) : Response where
  results := some (.array (r.labelings.map fun ws => .array (ws.map .text)))

theorem Response.wordsItem_array_text (ws : List String) :
    wordsItem (.array (ws.map .text)) = .ok (String.intercalate " " ws) := by
  have hwords : (ws.map Json.text).mapM textItem = .ok ws := by
    rw [List.mapM_map]
    exact (List.mapM_pure (f := id)).trans (congrArg Except.ok (List.map_id ws))
  rw [wordsItem, hwords]
  rfl

/-- The rows of a reply that repeats the request. -/
theorem FilterRequest.filteredRows_echo (r : FilterRequest) :
    r.echo.filteredRows = .ok (r.labelings.map (String.intercalate " ")) := by
  have hrows : (r.labelings.map fun ws => Json.array (ws.map .text)).mapM Response.wordsItem =
      .ok (r.labelings.map (String.intercalate " ")) := by
    rw [List.mapM_map]
    exact (congrArg (List.mapM · r.labelings) (funext Response.wordsItem_array_text)).trans
      List.mapM_pure
  exact hrows

theorem FilterRequest.labelings_of_make {rows : List String} {constraints : String}
    {r : FilterRequest} (h : make rows constraints = .ok r) :
    r.labelings = rows.map Text.words := by
  unfold make at h
  split at h
  · cases h
  · split at h
    · cases h
    · cases h
      rfl

namespace Session

open Overlay

variable {s : Session} {service : Service} {constraints : String} {request : FilterRequest}

/-- The rows of a list, with single spaces between their words. -/
def respaced (rows : List String) : List String :=
  rows.map fun row => String.intercalate " " (Text.words row)

theorem map_parse_respaced (rows : List String) :
    (respaced rows).map Labeling.parse = rows.map Labeling.parse := by
  rw [respaced, List.map_map]
  exact List.map_congr_left fun row _ => Labeling.parse_words row

/-! ## Rows that come back -/

/-- The filtered rows are the computed ones, spaced differently. -/
theorem filterLabelings_echo (hrequest : s.filterRequest constraints = .ok request)
    (hecho : service.filter request = .ok request.echo) :
    s.filterLabelings service constraints =
      (s.showing (s.overlay.setFiltered s.graph (respaced s.overlay.primary)),
        .ok (respaced s.overlay.primary)) := by
  have hrows : request.echo.filteredRows = .ok (respaced s.overlay.primary) := by
    rw [FilterRequest.filteredRows_echo, FilterRequest.labelings_of_make hrequest, List.map_map]
    rfl
  have hreply : (do
      let response ← service.filter (← s.filterRequest constraints)
      response.filteredRows) = .ok (respaced s.overlay.primary) := by
    rw [hrequest]
    change (service.filter request >>= fun response => response.filteredRows) = _
    rw [hecho]
    exact hrows
  simp only [filterLabelings, hreply]

/-- To select a row that came back shows what the computed row shows. -/
theorem selectLabeling_echo {i : Nat} (hi : i < s.overlay.primary.length) :
    let t := s.showing (s.overlay.setFiltered s.graph (respaced s.overlay.primary))
    (t.selectLabeling .filtered i).2 = .ok () ∧ (t.selectLabeling .filtered i).1.graph =
      { s.overlay with primarySelected := some i }.showLabeling s.graph := by
  intro t
  let row := s.overlay.primary[i]
  have hrow : s.overlay.primary[i]? = some row := List.getElem?_eq_getElem hi
  have hclicked : (t.overlay.labelings .filtered)[i]? =
      some (String.intercalate " " (Text.words row)) := by
    change (respaced s.overlay.primary)[i]? = _
    rw [respaced, List.getElem?_map, hrow, Option.map_some]
  have hnone : t.overlay.selected .filtered ≠ some i := fun h => (nomatch h)
  obtain ⟨o', hselect, toggled⟩ := exists_select hclicked t.graph
  have hshown : o'.shown?.map Labeling.parse =
      { s.overlay with primarySelected := some i }.shown?.map Labeling.parse := by
    rw [toggled.map_parse_shown? hnone hclicked, Labeling.parse_words, shown?, Option.bind_some,
      hrow, Option.some_or, Option.map_some]
  rw [selectLabeling, hselect]
  refine ⟨rfl, ?_⟩
  calc o'.showLabeling t.graph
      = o'.showLabeling s.graph := showLabeling_showLabeling _ _ _
    _ = _ := showLabeling_congr hshown s.graph

/-! ## Reading rows back -/

/-- Literals that are written, with any of the tags of their status in letters of either case, are
read as they are written.  Any row whatsoever has the literals that its words have with single
spaces between them.  So a labeling that comes back from a filter as it was sent has the same
literals, and to select it makes all arguments look the same. -/
theorem literals_read_back :
    (∀ (ls : List Literal) (row : String), (∀ l ∈ ls, Labeling.IsPlainName l.argument) →
      Labeling.IsRow ls row.toList → Labeling.parse row = ls) ∧
    (∀ row : String,
      Labeling.parse row = Labeling.parse (String.intercalate " " (Text.words row))) ∧
    (∀ (s : Session) (service : Service) (constraints : String) (request : FilterRequest),
      s.filterRequest constraints = .ok request → service.filter request = .ok request.echo →
      ∃ t rows, s.filterLabelings service constraints = (t, .ok rows) ∧
        rows.map Labeling.parse = s.overlay.primary.map Labeling.parse ∧
        ∀ i < rows.length, (t.selectLabeling .filtered i).2 = .ok () ∧
          (t.selectLabeling .filtered i).1.graph =
            { s.overlay with primarySelected := some i }.showLabeling s.graph) := by
  refine ⟨fun ls row hnames hrow => Labeling.parse_of_isRow hrow hnames,
    fun row => (Labeling.parse_words row).symm, ?_⟩
  intro s service constraints request hrequest hecho
  refine ⟨_, _, filterLabelings_echo hrequest hecho, map_parse_respaced _, fun i hi => ?_⟩
  rw [respaced, List.length_map] at hi
  exact selectLabeling_echo hi

/-- A service that computes one labeling and sends it back when it is asked to filter it. -/
def echoingService : Service where
  extensions _ := .ok ⟨some (.array [.text "IN( a )\tOu(b1)"]), none⟩
  strengths _ := .error Response.unexpectedFormat
  filter request := .ok request.echo

/-- Two literals with a tab between them are read, sent and selected. -/
theorem literals_read_back_tab :
    let s := (new {}).run [.applyDescription "arg(a).\narg(b1).",
      .computeLabelings echoingService none]
    let request : FilterRequest := ⟨[["IN(", "a", ")", "Ou(b1)"]], ["in(b1)"]⟩
    Labeling.parse "IN( a )\tOu(b1)" = [⟨.accepted, "a"⟩, ⟨.rejected, "b1"⟩] ∧
      Labeling.parse "IN( a )\tOu(b1)" = Labeling.parse "IN( a ) Ou(b1)" ∧
      s.filterRequest "in(b1)" = .ok request ∧
      ∃ t, s.filterLabelings echoingService "in(b1)" = (t, .ok ["IN( a ) Ou(b1)"]) ∧
        (t.selectLabeling .filtered 0).1.graph =
          { s.overlay with primarySelected := some 0 }.showLabeling s.graph := by
  intro s request
  obtain ⟨hwritten, hrespaced, hechoed⟩ := literals_read_back
  have hin : Labeling.Spelling.Fits ⟨['I', 'N'], [' '], [' ']⟩ .accepted :=
    ⟨by decide, List.forall_mem_singleton.2 (by decide), List.forall_mem_singleton.2 (by decide)⟩
  have hou : Labeling.Spelling.Fits ⟨['O', 'u'], [], []⟩ .rejected :=
    ⟨by decide, List.forall_mem_nil _, List.forall_mem_nil _⟩
  have htab : ∀ c ∈ ['\t'], Text.isBlank c = true := List.forall_mem_singleton.2 (by decide)
  have hrow : Labeling.IsRow [⟨.accepted, "a"⟩, ⟨.rejected, "b1"⟩] "IN( a )\tOu(b1)".toList :=
    let rest : Labeling.IsRow [⟨.rejected, "b1"⟩] _ := .single hou
    let row : Labeling.IsRow (⟨.accepted, "a"⟩ :: _) _ := .more hin (List.cons_ne_nil _ _) htab rest
    row
  have hwords : String.intercalate " " (Text.words "IN( a )\tOu(b1)") = "IN( a ) Ou(b1)" := by
    decide +kernel
  have hrequest : s.filterRequest "in(b1)" = .ok request := by decide +kernel
  obtain ⟨t, rows, hfilter, -, hselect⟩ := hechoed s echoingService "in(b1)" request hrequest rfl
  have hanswer : (s.filterLabelings echoingService "in(b1)").2 = .ok ["IN( a ) Ou(b1)"] := by
    decide +kernel
  obtain rfl : rows = ["IN( a ) Ou(b1)"] :=
    Except.ok.inj ((congrArg Prod.snd hfilter).symm.trans hanswer)
  exact ⟨hwritten _ _ (by decide +kernel) hrow,
    (hrespaced _).trans (congrArg Labeling.parse hwords), hrequest, t, hfilter,
    (hselect 0 (by decide)).2⟩

end Session

end Argumentation
