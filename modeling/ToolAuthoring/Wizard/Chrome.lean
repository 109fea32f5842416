import ToolAuthoring.Wizard.Basic

/-!
# Around the steps

The title, the step bar and the buttons of the wizard. What depends on a call in flight is shown
through a `Snapshot`, which can be taken before the call and rendered while it is pending.
-/

namespace ToolAuthoring

/-- Where a step lies relative to the current one. -/
inductive StepState where
  | completed
  | current
  | upcoming
deriving DecidableEq, Repr

/-- The name of a state. -/
def StepState.name : StepState → String
  | .completed => "completed"
  | .current => "current"
  | .upcoming => "upcoming"

/-- One entry of the step bar, numbered from one. -/
structure StepMarker where
  step : Step
  number : Nat
  label : String
  description : String
  state : StepState
  clickable : Bool
deriving DecidableEq, Repr

/-- A button. -/
structure Button where
  label : String
  enabled : Bool
deriving DecidableEq, Repr

/-- The buttons under a step. -/
structure Controls where
  cancel : Button
  previous : Option Button
  next : Option Button
  submit : Option Button
deriving DecidableEq, Repr

/-- A wizard as it was seen at some moment. Step, mode and configuration are those of that moment;
which calls are in flight is looked up when the snapshot is rendered. -/
structure Snapshot where
  step : Step
  editing : Bool
  config : WizardConfig
deriving DecidableEq

namespace Snapshot

/-- Whether the draft can be submitted. -/
def canSubmit (v : Snapshot) (busy : Busy) (d : Draft) (preview : Option String) : Bool :=
  v.step.isLast && v.config.canSubmit d preview busy.submitting

/-- The label of the submit button. -/
def submitLabel (v : Snapshot) (busy : Busy) : String :=
  if busy.submitting then "Saving..." else if v.editing then "Update Tool" else "Create Tool"

/-- The buttons. -/
def controls (v : Snapshot) (busy : Busy) (d : Draft) (preview : Option String) : Controls where
  cancel := ⟨"Cancel", true⟩
  previous := v.step.previous?.map fun _ => ⟨"Previous", true⟩
  next := if v.step.isLast then none else some ⟨"Next", !busy.generating⟩
  submit :=
    if v.step.isLast then some ⟨v.submitLabel busy, v.canSubmit busy d preview⟩ else none

end Snapshot

namespace Wizard

/-- The wizard as it is seen now. -/
def snapshot (w : Wizard) : Snapshot := ⟨w.step, w.editing, w.config⟩

/-- The title of the dialog. -/
def title (w : Wizard) : String :=
  if w.editing then "Edit Tool" else "Create New Tool"

/-- How far the wizard has come. -/
def progress (w : Wizard) : String :=
  "Step " ++ toString (w.step.index + 1) ++ " of " ++ toString Step.count

/-- The entry of one step. -/
def marker (w : Wizard) (step : Step) : StepMarker where
  step := step
  number := step.index + 1
  label := step.label
  description := step.description
  state :=
    if step.index < w.step.index then .completed
    else if step.index = w.step.index then .current
    else .upcoming
  clickable := step.index ≤ w.step.index

/-- The step bar. -/
def markers (w : Wizard) : List StepMarker :=
  Step.all.map w.marker

end Wizard

end ToolAuthoring
