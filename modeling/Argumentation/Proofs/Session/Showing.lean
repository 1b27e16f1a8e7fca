import Argumentation.Proofs.Overlay
import Argumentation.Proofs.Session.Run

/-!
# Operations that show results

Seven operations show or discard results and do nothing else (`Operation.isShowing`).  Whatever
they are asked and whatever the service answers, to discard all results afterwards gives the
session in which they were discarded at once (`resetResults_perform`).
-/

namespace Argumentation.Session

variable {s s' : Session}

/-- Whether an operation only shows or discards results. -/
def Operation.isShowing : Operation → Bool
  | .selectLabeling .. => true
  | .applyStrengthText .. => true
  | .computeLabelings .. => true
  | .computeStrengths .. => true
  | .filterLabelings .. => true
  | .resetResults => true
  | .resetFiltered => true
  | _ => false

@[simp] theorem resetResults_resetResults (s : Session) :
    s.resetResults.resetResults = s.resetResults := by
  simp only [resetResults, Overlay.clearResults_clearResults]

theorem resetResults_showing {overlay : Overlay} {g : Graph}
    (h : Overlay.clearResults g = Overlay.clearResults s.graph) :
    (s.showing (overlay, g)).resetResults = s.resetResults := by
  simp only [resetResults, showing, h]

theorem resetResults_selectLabeling (s : Session) (list : ResultList) (row : Nat) :
    (s.selectLabeling list row).1.resetResults = s.resetResults := by
  unfold selectLabeling
  cases h : s.overlay.select s.graph list row with
  | error e => rfl
  | ok shown => exact resetResults_showing (Overlay.clearResults_select h)

theorem resetResults_showStrengths (s : Session) (lines : List String) :
    (s.showStrengths lines).1.resetResults = s.resetResults :=
  resetResults_showing (Overlay.clearResults_setStrengths s.overlay s.graph lines)

theorem resetResults_computeLabelings (s : Session) (service : Service)
    (semantics : Option String) :
    (s.computeLabelings service semantics).1.resetResults = s.resetResults := by
  simp only [computeLabelings]
  split
  · exact resetResults_showing (Overlay.clearResults_showLabeling _ s.graph)
  · rfl

theorem resetResults_computeStrengths (s : Session) (service : Service)
    (params : Option GradualParams) :
    (s.computeStrengths service params).1.resetResults = s.resetResults := by
  simp only [computeStrengths]
  split
  · exact resetResults_showStrengths s _
  · rfl

theorem resetResults_filterLabelings (s : Session) (service : Service) (constraints : String) :
    (s.filterLabelings service constraints).1.resetResults = s.resetResults := by
  simp only [filterLabelings]
  split
  · exact resetResults_showing (Overlay.clearResults_showLabeling _ s.graph)
  · rfl

/-- Once all results are discarded, it makes no difference that some were shown. -/
theorem resetResults_perform (s : Session) {op : Operation} (hop : op.isShowing = true) :
    (s.perform op).1.resetResults = s.resetResults := by
  cases op with
  | selectLabeling list row => exact resetResults_selectLabeling s list row
  | applyStrengthText text => exact resetResults_showStrengths s (Text.lines text)
  | computeLabelings service semantics => exact resetResults_computeLabelings s service semantics
  | computeStrengths service params => exact resetResults_computeStrengths s service params
  | filterLabelings service constraints => exact resetResults_filterLabelings s service constraints
  | resetResults => exact resetResults_resetResults s
  | resetFiltered => exact resetResults_showing (Overlay.clearResults_clearAppearances s.graph)
  | _ => cases hop

end Argumentation.Session
