import Argumentation.Proofs.Session.Untouched

/-!
# Imports that fail

An import does its parts one after the other, so what it has done when it fails depends on their
order.

A description is imported as it is applied, so one that is refused leaves nothing behind.  A
project document is read as a whole before anything is changed, and it gives its name to the
project before its description is applied; nothing that comes after the description can fail.  A
file whose name tells no format, or that cannot be read, changes nothing.  Any other file starts a
new project first, which bears the name of the file, and the old one is gone even if the content
is refused.

So the name of the project is all that a document leaves behind (`importText_failed`), and a file
leaves the new project and its name (`importFrom_failed`).

Main statement: `import_failed_leaves`.
-/

namespace Argumentation.Session

variable {s : Session} {err : Error}

/-! ## What is left -/

/-- The name that a project gets from a document, if it gets one. -/
def nameAfter (s : Session) (p : Project) : String :=
  match nonBlank? (p.metadata.map (·.projectName)) with
  | some name => Text.trim name
  | none => s.projectName

/-- What is left of a session when the text of a format is refused. -/
def leftBy (s : Session) (content : String) : FileFormat → Session
  | .description => s
  | .project =>
    match Project.ofText content with
    | .error _ => s
    | .ok p => { s with projectName := s.nameAfter p }

/-- The new project that a file starts. -/
def startedBy (s : Session) (path : String) : Session where
  config := s.config
  listener := s.listener
  projectName :=
    match nonBlank? (Path.stem? path) with
    | some stem => Text.trim stem
    | none => s.config.defaults.projectName

/-- What is left of a session when the import of a file fails. -/
def leftByFile (s : Session) (path : String) (read : Except Error String) : Session :=
  match FileFormat.ofPath path, read with
  | .ok format, .ok content => (s.startedBy path).leftBy content format
  | _, _ => s

/-! ## Names -/

theorem nonBlank?_eq_some_iff {text : Option String} {t : String} :
    nonBlank? text = some t ↔ text = some t ∧ Text.trim t ≠ "" := by
  rw [nonBlank?, Option.filter_eq_some_iff, Bool.not_eq_true', Ne, Text.trim_eq_empty_iff,
    Bool.not_eq_true]

theorem setProjectName_of_ne {name : String} (h : Text.trim name ≠ "") :
    s.setProjectName name = { s with projectName := Text.trim name } := by
  simp only [setProjectName, if_neg h]

/-- Only the name of the project changes when the name of a document is taken over. -/
theorem takeName_eq (s : Session) (p : Project) :
    s.takeName p = { s with projectName := s.nameAfter p } := by
  unfold takeName nameAfter
  cases hname : nonBlank? (p.metadata.map (·.projectName)) with
  | none => rfl
  | some name => exact setProjectName_of_ne (nonBlank?_eq_some_iff.1 hname).2

/-- A file that has no name, or a blank one, leaves the standard name. -/
theorem startedBy_eq (s : Session) (path : String) :
    (match Path.stem? path with
      | some stem => s.reset.setProjectName stem
      | none => s.reset) = s.startedBy path := by
  unfold startedBy
  cases Path.stem? path with
  | none => rfl
  | some stem =>
    by_cases hblank : Text.trim stem = ""
    · have hnone : nonBlank? (some stem) = none := by
        rw [nonBlank?, Option.filter_some, Text.trim_eq_empty_iff.1 hblank]
        rfl
      simp only [setProjectName, hblank, hnone, if_true]
      rfl
    · rw [nonBlank?_eq_some_iff.2 ⟨rfl, hblank⟩]
      exact setProjectName_of_ne hblank

/-! ## Documents -/

theorem takeDescription_failed (sound : s.graph.Sound) {p : Project}
    (h : (s.takeDescription p).2 = .error err) : (s.takeDescription p).1 = s := by
  unfold takeDescription at h ⊢
  cases htext : nonBlank? p.description with
  | none => rfl
  | some text =>
    rw [htext] at h
    exact applyDescription_failed sound h

/-- A document whose description is refused leaves its name. -/
theorem importProject_failed (sound : s.graph.Sound) {p : Project}
    (h : (s.importProject p).2 = .error err) : (s.importProject p).1 = s.takeName p := by
  have hsound : (s.takeName p).graph.Sound := by rwa [takeName_eq]
  have hfailed : ∀ e, ((s.takeName p).takeDescription p).2 = .error e →
      ((s.takeName p).takeDescription p).1 = s.takeName p :=
    fun _ => takeDescription_failed hsound
  unfold importProject at h ⊢
  generalize (s.takeName p).takeDescription p = r at h hfailed ⊢
  obtain ⟨t, e | outcome⟩ := r
  · exact hfailed e rfl
  · cases h

theorem importText_failed (sound : s.graph.Sound) {content : String} {format : FileFormat}
    (h : (s.importText content format).2 = .error err) :
    (s.importText content format).1 = s.leftBy content format := by
  cases format with
  | description => exact applyDescription_failed sound h
  | project =>
    rw [importText] at h ⊢
    rw [leftBy]
    cases hread : Project.ofText content with
    | error e => rfl
    | ok p =>
      rw [hread] at h
      exact (importProject_failed sound h).trans (takeName_eq s p)

/-! ## Files -/

/-- A file is imported into the new project that it starts. -/
theorem importContent_eq (s : Session) (path : String) (format : FileFormat) (content : String) :
    s.importContent path format content = (s.startedBy path).importText content format := by
  rw [← startedBy_eq]
  rfl

theorem importFrom_failed {path : String} {read : Except Error String}
    (h : (s.importFrom path read).2 = .error err) :
    (s.importFrom path read).1 = s.leftByFile path read := by
  unfold importFrom at h ⊢
  unfold leftByFile
  cases hformat : FileFormat.ofPath path with
  | error e => rfl
  | ok format =>
    rw [hformat] at h
    cases read with
    | error e => rfl
    | ok content =>
      simp only [importRead, importContent_eq] at h ⊢
      exact importText_failed Graph.sound_empty h

/-! ## Every session that is reached -/

/-- In every session that is reached, an import that fails leaves everything as it was, with two
exceptions.  A project document, once it is read, leaves its name, and a file whose content is
looked at leaves a new project in place of the old one. -/
theorem import_failed_leaves (config : Config) (ops : List Operation)
    (room : (new config).drawnBy ops < Graph.lastNumber) {s : Session}
    (hs : (new config).run ops = s) :
    (∀ content format err, (s.importText content format).2 = .error err →
      (s.importText content format).1 = s.leftBy content format) ∧
    ∀ path read err, (s.importFrom path read).2 = .error err →
      (s.importFrom path read).1 = s.leftByFile path read := by
  have agrees : Agrees config _ s := hs ▸ run_agrees config ops room
  exact ⟨fun content format err h => importText_failed agrees.sound h,
    fun path read err h => importFrom_failed h⟩

/-- A document that gives its name and has a fault in its description. -/
def misnaming : String :=
  "\x7b\"metadata\": \x7b\"projectName\": \" other \", \"exportDate\": \"\", \"version\": \"1.0\"," ++
    "\"nodeCount\": 0, \"edgeCount\": 0\x7d, \"description\": \"arg(b\"\x7d"

theorem ofText_misnaming : Project.ofText misnaming =
    .ok { metadata := some ⟨" other ", "", "1.0", 0, 0⟩, description := some "arg(b" } := by
  decide +kernel

/-- The document leaves its name without the blanks around it, and the file leaves a project of
its own name. -/
theorem import_failed_leaves_names :
    let s := (new {}).run [.applyDescription "arg(a).", .listen]
    let refusal : Except Error Outcome := .error (.description [⟨1, .notAStatement "arg(b"⟩])
    s.importText misnaming .project = ({ s with projectName := "other" }, refusal) ∧
      s.importFrom "b.apx" (.ok "arg(b") =
        ({ config := {}, listener := .attached [], projectName := "b" }, refusal) := by
  intro s refusal
  obtain ⟨htext, hfile⟩ := import_failed_leaves {} _ (by decide +kernel) (show _ = s from rfl)
  have hdocument : (s.importText misnaming .project).2 = refusal := by
    rw [importText, ofText_misnaming]
    decide +kernel
  have hcontent : (s.importFrom "b.apx" (.ok "arg(b")).2 = refusal := by decide +kernel
  have hnamed : s.leftBy misnaming .project = { s with projectName := "other" } := by
    rw [leftBy, ofText_misnaming]
    decide +kernel
  exact ⟨Prod.ext ((htext _ _ _ hdocument).trans hnamed) hdocument,
    Prod.ext (hfile _ _ _ hcontent) hcontent⟩

/-- A document that is refused has renamed the project, and a file that is refused has emptied the
session. -/
theorem import_failed_traces :
    let s := (new {}).run [.applyDescription "arg(a)."]
    ((s.importText misnaming .project).2.toBool = false ∧
        (s.importText misnaming .project).1.projectName ≠ s.projectName) ∧
      (s.importFrom "b.apx" (.ok "arg(b")).2.toBool = false ∧
        (s.importFrom "b.apx" (.ok "arg(b")).1.graph ≠ s.graph := by
  intro s
  rw [importText, ofText_misnaming]
  decide +kernel

end Argumentation.Session
