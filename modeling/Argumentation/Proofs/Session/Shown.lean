import Argumentation.Proofs.Overlay.Selection
import Argumentation.Proofs.Session.Steps

/-!
# Results that are shown are the results that are held

Renames, removals and new descriptions change what the results were computed for.  Each of them
discards all results, so in every session that is reached the results fit: selections are rows of
their lists, labels are what the selected row says of the argument under its present identifier,
and strengths are what the last line of strengths says (`results_current`).

Labelings and strengths are displayed by the same means.  Whichever was displayed last decides how
every argument looks (`displayed`, `look_of_displayed`).  To display strengths leaves the selection
of a labeling as it is, though, so a row may be selected and not be what is seen
(`selected_repainted`).
-/

namespace Argumentation.Session

open Overlay

variable {config : Config} {s s' : Session}

/-! ## What was displayed last -/

/-- What arguments can look like. -/
inductive Display where
  /-- What a labeling says of them. -/
  | labelings
  /-- The colours of their strengths. -/
  | strengths
  deriving DecidableEq

/-- How an argument looks. -/
def Display.look (d : Display) (o : Overlay) (a : Argument) : Appearance :=
  match d with
  | .labelings => labelLook o.shown? a.id
  | .strengths => strengthLook a.strength

/-- What is displayed if a request succeeds. -/
def Display.ifOk {α : Type} (d : Display) : Except Error α → Option Display
  | .ok _ => some d
  | .error _ => none

/-- What an operation displays, if it displays anything.  Labelings are displayed, too, when they
are dropped. -/
def display? (s : Session) : Operation → Option Display
  | .selectLabeling list row => Display.labelings.ifOk (s.selectLabeling list row).2
  | .computeLabelings service semantics =>
    Display.labelings.ifOk (s.computeLabelings service semantics).2
  | .filterLabelings service constraints =>
    Display.labelings.ifOk (s.filterLabelings service constraints).2
  | .resetResults => some .labelings
  | .resetFiltered => some .labelings
  | .applyStrengthText _ => some .strengths
  | .computeStrengths service params => Display.strengths.ifOk (s.computeStrengths service params).2
  | _ => none

/-- What is displayed after some operations. -/
def displayedFrom (s : Session) (d : Display) : List Operation → Display
  | [] => d
  | op :: ops => (s.perform op).1.displayedFrom ((s.display? op).getD d) ops

/-- What is displayed by a session that starts new. -/
def displayed (config : Config) (ops : List Operation) : Display :=
  (new config).displayedFrom .labelings ops

/-! ## Results that fit -/

/-- A session whose results fit its graph, and on which something is displayed. -/
structure Shows (d : Display) (s : Session) : Prop where
  /-- The selections fit. -/
  wellSelected : s.overlay.WellSelected
  /-- Every argument has the strength of the last line that names it. -/
  strength : ∀ a ∈ s.graph.arguments, a.strength = Strength.last? s.overlay.strengths a.id
  /-- Every argument looks as it is displayed. -/
  look : ∀ a ∈ s.graph.arguments, a.appearance = d.look s.overlay a

section Unmarked

/-- An argument that shows no result. -/
def Unmarked (a : Argument) : Prop := a.strength = none ∧ a.appearance = .plain

theorem unmarked_clearResults (g : Graph) : ∀ a ∈ (clearResults g).arguments, Unmarked a := by
  rw [arguments_clearResults]
  exact List.forall_mem_map.2 fun _ _ => ⟨rfl, rfl⟩

/-- Once all results are discarded, whatever can be displayed is. -/
theorem shows_of_unmarked (d : Display) (hoverlay : s.overlay = {})
    (h : ∀ a ∈ s.graph.arguments, Unmarked a) : Shows d s where
  wellSelected := by
    rw [hoverlay]
    exact wellSelected_of_none rfl rfl
  strength a ha := by
    rw [hoverlay]
    exact (h a ha).1
  look a ha := by
    rw [(h a ha).2, hoverlay]
    cases d with
    | labelings => rfl
    | strengths => rw [Display.look, (h a ha).1, strengthLook, Option.elim_none]

end Unmarked

namespace Shows

variable {d : Display}

/-- What is displayed does not depend on weights, descriptions and places. -/
theorem of_arguments (shows : Shows d s) (hoverlay : s'.overlay = s.overlay)
    (h : ∀ a ∈ s'.graph.arguments, ∃ b ∈ s.graph.arguments,
      a.id = b.id ∧ a.strength = b.strength ∧ a.appearance = b.appearance) : Shows d s' where
  wellSelected := hoverlay ▸ shows.wellSelected
  strength a ha := by
    obtain ⟨b, hb, hid, hstrength, -⟩ := h a ha
    rw [hoverlay, hid, hstrength]
    exact shows.strength b hb
  look a ha := by
    obtain ⟨b, hb, hid, hstrength, hlook⟩ := h a ha
    rw [hlook, shows.look b hb, hoverlay]
    cases d with
    | labelings => rw [Display.look, Display.look, hid]
    | strengths => rw [Display.look, Display.look, hstrength]

theorem modifyArgument (shows : Shows d s) (id : String) {f : Argument → Argument}
    (hf : ∀ a, (f a).id = a.id ∧ (f a).strength = a.strength ∧ (f a).appearance = a.appearance) :
    Shows d { s with graph := s.graph.modifyArgument id f } := by
  refine shows.of_arguments rfl fun a ha => ?_
  obtain hold | ⟨b, hb, rfl⟩ := Graph.mem_of_modifyArgument ha
  · exact ⟨a, hold, rfl, rfl, rfl⟩
  · exact ⟨b, hb, hf b⟩

/-! ## Steps -/

theorem syncText (s : Session) : Shows d s.syncText :=
  shows_of_unmarked d rfl (unmarked_clearResults s.graph)

theorem edit (shows : Shows d s) (idle : s.mode = .idle) (e : Edit) : Shows d (s.edit e).1 := by
  obtain heq | ⟨g, es, listener, -, heq⟩ := edit_steps idle e
  · rwa [heq]
  · rw [heq]
    exact syncText _

/-- New arguments show no result, and a description that is refused half-way has discarded all
results, too. -/
theorem applyDescriptionWith (shows : Shows d s) (text : String) (place : Reconcile.Placement) :
    Shows d (s.applyDescriptionWith text place).1 := by
  obtain heq | heq | ⟨f, lastApplied, listener, -, heq⟩ := applyDescriptionWith_steps s text place
  · rwa [heq]
  · rw [heq]
    exact ⟨shows.wellSelected, shows.strength, shows.look⟩
  · have hunmarked : ∀ a ∈ ((clearResults s.graph).reconcile f place).graph.arguments, Unmarked a :=
      Reconcile.forall_reconcile (fun e _ => ⟨fun _ h => h, fun _ => ⟨rfl, rfl⟩⟩)
        (unmarked_clearResults s.graph)
    rw [heq]
    exact shows_of_unmarked d rfl hunmarked

end Shows

theorem stable_shows (config : Config) (d : Display) :
    Stable (fun _ => True) (fun s => Orderly config s ∧ Shows d s) where
  reset h := ⟨(stable_orderly config).reset h.1, shows_of_unmarked d rfl (List.forall_mem_nil _)⟩
  applied h text place :=
    ⟨h.1.applyDescriptionWith text place, h.2.applyDescriptionWith text place⟩
  edited h e := ⟨h.1.edit e, h.2.edit h.1.idle e⟩
  moved h id position := by
    refine ⟨(stable_orderly config).moved h.1 id position, ?_⟩
    unfold moveArgument
    split
    · exact h.2.modifyArgument id fun _ => ⟨rfl, rfl, rfl⟩
    · exact h.2
  synced h := ⟨h.1.syncText, Shows.syncText _⟩
  heard h listener :=
    ⟨(stable_orderly config).heard h.1 listener, ⟨h.2.wellSelected, h.2.strength, h.2.look⟩⟩
  named h name := by
    refine ⟨(stable_orderly config).named h.1 name, ?_⟩
    rw [setProjectName]
    exact ⟨h.2.wellSelected, h.2.strength, h.2.look⟩
  laidOut h layout :=
    ⟨(stable_orderly config).laidOut h.1 layout, ⟨h.2.wellSelected, h.2.strength, h.2.look⟩⟩
  restored h n hn :=
    ⟨(stable_orderly config).restored h.1 n hn, h.2.modifyArgument n.id fun _ => ⟨rfl, rfl, rfl⟩⟩
  reseeded h := ⟨(stable_orderly config).reseeded h.1, ⟨h.2.wellSelected, h.2.strength, h.2.look⟩⟩

/-! ## Operations that show results -/

section Showing

variable {d : Display}

/-- A labeling that is shown leaves the strengths as they are. -/
theorem Shows.showLabeling (shows : Shows d s) (orderly : Orderly config s) {o : Overlay}
    (wellSelected : o.WellSelected) (hstrengths : o.strengths = s.overlay.strengths) :
    Shows .labelings (s.showing (o, o.showLabeling s.graph)) := by
  have hmem : ∀ a ∈ (o.showLabeling s.graph).arguments, ∃ b ∈ s.graph.arguments,
      a = { b with appearance := labelLook o.shown? b.id } := fun a ha =>
    orderly.keyed.exists_of_mem_map
      (f := fun id b => { b with appearance := labelLook o.shown? id })
      (nodes_showLabeling o s.graph) ha
  refine ⟨wellSelected, fun a ha => ?_, fun a ha => ?_⟩
  · obtain ⟨b, hb, rfl⟩ := hmem a ha
    exact (shows.strength b hb).trans (congrArg (Strength.last? · b.id) hstrengths.symm)
  · obtain ⟨b, hb, rfl⟩ := hmem a ha
    rfl

/-- Strengths that are shown leave the selections as they are. -/
theorem Shows.showStrengths (shows : Shows d s) (orderly : Orderly config s)
    (lines : List String) : Shows .strengths (s.showStrengths lines).1 := by
  have hmem : ∀ a ∈ (s.overlay.setStrengths s.graph lines).2.1.arguments, ∃ b ∈ s.graph.arguments,
      a = { b with
        strength := Strength.last? lines b.id
        appearance := strengthLook (Strength.last? lines b.id) } := fun a ha =>
    orderly.keyed.exists_of_mem_map
      (f := fun id b => { b with
        strength := Strength.last? lines id
        appearance := strengthLook (Strength.last? lines id) })
      (nodes_setStrengths s.overlay s.graph lines) ha
  refine ⟨⟨shows.wellSelected.within, shows.wellSelected.same⟩, fun a ha => ?_, fun a ha => ?_⟩
  · obtain ⟨b, hb, rfl⟩ := hmem a ha
    rfl
  · obtain ⟨b, hb, rfl⟩ := hmem a ha
    rfl

theorem Shows.resetFiltered (shows : Shows d s) (orderly : Orderly config s) :
    Shows .labelings s.resetFiltered := by
  have hmem : ∀ a ∈ (clearAppearances s.graph).arguments, ∃ b ∈ s.graph.arguments,
      a = { b with appearance := .plain } := fun a ha =>
    orderly.keyed.exists_of_mem_map (f := fun _ b => { b with appearance := .plain })
      (nodes_clearAppearances s.graph) ha
  refine ⟨wellSelected_of_none rfl rfl, fun a ha => ?_, fun a ha => ?_⟩
  · obtain ⟨b, hb, rfl⟩ := hmem a ha
    exact shows.strength b hb
  · obtain ⟨b, hb, rfl⟩ := hmem a ha
    rfl

/-- Each operation that shows results displays what it says. -/
theorem Shows.perform (shows : Shows d s) (orderly : Orderly config s) {op : Operation}
    (hop : op.isShowing = true) : Shows ((s.display? op).getD d) (s.perform op).1 := by
  cases op with
  | selectLabeling list row =>
    simp only [Session.perform, silent, display?, selectLabeling]
    cases hselect : s.overlay.select s.graph list row with
    | error e => exact shows
    | ok shown =>
      obtain ⟨o, g⟩ := shown
      obtain ⟨clicked, hclicked, toggled, rfl⟩ := toggled_of_select hselect
      exact shows.showLabeling orderly (toggled.wellSelected hclicked) toggled.strengths_eq
  | applyStrengthText text => exact shows.showStrengths orderly (Text.lines text)
  | computeLabelings service semantics =>
    simp only [Session.perform, silent, display?, computeLabelings]
    split
    · exact shows.showLabeling orderly (wellSelected_of_none rfl rfl) rfl
    · exact shows
  | computeStrengths service params =>
    simp only [Session.perform, silent, display?, computeStrengths]
    split
    · exact shows.showStrengths orderly _
    · exact shows
  | filterLabelings service constraints =>
    simp only [Session.perform, silent, display?, filterLabelings]
    split
    · exact shows.showLabeling orderly (shows.wellSelected.setFiltered s.graph _) rfl
    · exact shows
  | resetResults => exact shows_of_unmarked _ rfl (unmarked_clearResults s.graph)
  | resetFiltered => exact shows.resetFiltered orderly
  | _ => cases hop

theorem display?_of_not_isShowing (s : Session) {op : Operation} (hop : op.isShowing = false) :
    s.display? op = none := by
  cases op <;> first | rfl | cases hop

/-! ## Runs -/

theorem Shows.run (shows : Shows d s) (orderly : Orderly config s) (ops : List Operation) :
    Shows (s.displayedFrom d ops) (s.run ops) := by
  induction ops generalizing s d with
  | nil => exact shows
  | cons op ops ih =>
    cases hop : op.isShowing with
    | true =>
      exact ih (shows.perform orderly hop) (orderly.of_resetResults (resetResults_perform s hop))
    | false =>
      obtain ⟨horderly, hshows⟩ :=
        (stable_shows config d).perform hop (fun _ _ => trivial) ⟨orderly, shows⟩
      rw [displayedFrom, display?_of_not_isShowing s hop]
      exact ih hshows horderly

end Showing

theorem run_shows (config : Config) (ops : List Operation) :
    Shows (displayed config ops) ((new config).run ops) :=
  (shows_of_unmarked _ rfl (List.forall_mem_nil _)).run (orderly_new config) ops

/-- Whatever is done, every argument looks as the selected row says if labelings were displayed
last, and like nothing if no row is selected or the row does not name it.  If strengths were
displayed last it looks like its strength, whatever is selected. -/
theorem look_of_displayed (config : Config) (ops : List Operation) :
    let s := (new config).run ops
    (displayed config ops = .labelings →
      ∀ a ∈ s.graph.arguments, a.appearance = labelLook s.overlay.shown? a.id) ∧
    (displayed config ops = .strengths →
      ∀ a ∈ s.graph.arguments, a.appearance = strengthLook a.strength) := by
  intro s
  have shows : Shows (displayed config ops) s := run_shows config ops
  exact ⟨fun hd a ha => (shows.look a ha).trans (by rw [hd, Display.look]),
    fun hd a ha => (shows.look a ha).trans (by rw [hd, Display.look])⟩

/-- A service that has one labeling, which meets all constraints. -/
def acceptingService : Service where
  extensions _ := .ok ⟨some (.array [.text "in(a) ou(b)"]), none⟩
  strengths _ := .error Response.unexpectedFormat
  filter _ := .ok ⟨some (.array [.array [.text "in(a)", .text "ou(b)"]]), none⟩

/-- A row is selected after strengths were displayed, and then strengths are displayed again. -/
theorem look_of_displayed_twice :
    let selected : List Operation := [.applyDescription "arg(a).\narg(b).",
      .applyStrengthText "a:0.5", .computeLabelings acceptingService none,
      .selectLabeling .primary 0]
    let repainted := selected ++ [.applyStrengthText "a:0.5"]
    let s := (new {}).run selected
    let t := (new {}).run repainted
    (∀ a ∈ s.graph.arguments, a.appearance = labelLook s.overlay.shown? a.id) ∧
      (∀ a ∈ t.graph.arguments, a.appearance = strengthLook a.strength) ∧
      s.graph.arguments.map (·.appearance) = [.accepted, .rejected] ∧
      t.graph.arguments.map (·.appearance) = [.strength 14, .plain] := by
  intro selected repainted s t
  have hlabelings : displayed {} selected = .labelings := by decide +kernel
  have hstrengths : displayed {} repainted = .strengths := by decide +kernel
  obtain ⟨hlabeled, -⟩ := look_of_displayed {} selected
  obtain ⟨-, hcoloured⟩ := look_of_displayed {} repainted
  exact ⟨hlabeled hlabelings, hcoloured hstrengths, by decide +kernel, by decide +kernel⟩

/-- A labeling is selected, and the argument that it accepts looks like its strength. -/
theorem selected_repainted :
    let service := Service.constant (.ok ⟨some (.array [.text "in(a)"]), none⟩)
    let s := (new {}).run [.applyDescription "arg(a).", .computeLabelings service none,
      .selectLabeling .primary 0, .applyStrengthText "a:0.5"]
    s.overlay.shown? = some "in(a)" ∧ labelLook s.overlay.shown? "a" = .accepted ∧
      s.graph.arguments.map (fun a => (a.id, a.appearance)) = [("a", .strength 14)] := by
  decide +kernel

/-! ## Results that are not stale -/

/-- A session whose results are not stale. -/
structure Current (s : Session) : Prop where
  /-- What is selected in a list is one of its rows. -/
  within : ∀ list, ∀ row ∈ s.overlay.selected list, row < (s.overlay.labelings list).length
  /-- Rows that are selected in both lists differ in surrounding blanks only. -/
  same : ∀ i ∈ s.overlay.primarySelected, ∀ j ∈ s.overlay.filteredSelected,
    s.overlay.primary[i]?.map Text.trim = s.overlay.filtered[j]?.map Text.trim
  /-- An argument that looks accepted, rejected or undecided is called so by the last literal of
  the selected row that names it. -/
  labelled : ∀ a ∈ s.graph.arguments, ∀ status : LabelStatus, a.appearance = status.appearance →
    ∃ row ∈ s.overlay.shown?, Labeling.status? (Labeling.parse row) a.id = some status
  /-- An argument has the strength of the last line that names it. -/
  strength : ∀ a ∈ s.graph.arguments, a.strength = Strength.last? s.overlay.strengths a.id
  /-- An argument that has a colour has it from its strength. -/
  coloured : ∀ a ∈ s.graph.arguments, ∀ n, a.appearance = .strength n →
    ∃ x ∈ a.strength, n = Strength.bucket x

theorem eq_some_of_labelLook {row : Option String} {id : String} {status : LabelStatus}
    (h : labelLook row id = status.appearance) :
    ∃ text ∈ row, Labeling.status? (Labeling.parse text) id = some status := by
  rw [labelLook] at h
  cases hstatus : row.bind fun row => Labeling.status? (Labeling.parse row) id with
  | none =>
    rw [hstatus] at h
    cases status <;> cases h
  | some said =>
    rw [hstatus] at h
    obtain ⟨text, htext, hsaid⟩ := Option.bind_eq_some_iff.1 hstatus
    have hsame : said = status := by
      cases said <;> cases status <;> first | rfl | cases h
    exact ⟨text, htext, hsame ▸ hsaid⟩

theorem labelLook_ne_strength (row : Option String) (id : String) (n : Nat) :
    labelLook row id ≠ .strength n := by
  rw [labelLook]
  intro h
  cases hstatus : row.bind fun row => Labeling.status? (Labeling.parse row) id with
  | none =>
    rw [hstatus] at h
    cases h
  | some status =>
    rw [hstatus] at h
    cases status <;> cases h

theorem strengthLook_ne_appearance (x : Option Binary64) (status : LabelStatus) :
    strengthLook x ≠ status.appearance := by
  intro h
  cases x <;> cases status <;> cases h

theorem Shows.current {d : Display} (shows : Shows d s) : Current s where
  within := shows.wellSelected.within
  same := shows.wellSelected.same
  labelled a ha status happearance := by
    have hlook := (shows.look a ha).symm.trans happearance
    cases d with
    | labelings => exact eq_some_of_labelLook hlook
    | strengths => exact absurd hlook (strengthLook_ne_appearance a.strength status)
  strength := shows.strength
  coloured a ha n happearance := by
    have hlook := (shows.look a ha).symm.trans happearance
    cases d with
    | labelings => exact absurd hlook (labelLook_ne_strength _ a.id n)
    | strengths =>
      cases hx : a.strength with
      | none =>
        rw [Display.look, hx] at hlook
        cases hlook
      | some x =>
        rw [Display.look, hx] at hlook
        cases hlook
        exact ⟨x, rfl, rfl⟩

/-- In every session that is reached, results fit the graph as it is now and each other. -/
theorem results_current (config : Config) (ops : List Operation) :
    Current ((new config).run ops) := (run_shows config ops).current

/-- A row is selected in both lists, and strengths that were displayed before are still held. -/
theorem results_current_selected :
    let s := (new {}).run [.applyDescription "arg(a).\narg(b).",
      .computeLabelings acceptingService none, .filterLabelings acceptingService "in(a)",
      .applyStrengthText "b:0.5\nb:0.25", .selectLabeling .filtered 0]
    Current s ∧ s.overlay.primarySelected = some 0 ∧ s.overlay.filteredSelected = some 0 ∧
      s.graph.arguments.map (fun a => (a.appearance, a.strength.map Strength.bucket)) =
        [(.accepted, none), (.rejected, some 7)] :=
  ⟨results_current _ _, by decide +kernel, by decide +kernel, by decide +kernel⟩

end Argumentation.Session
