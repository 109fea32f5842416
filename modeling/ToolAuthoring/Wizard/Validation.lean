import ToolAuthoring.Wizard.Config
import ToolAuthoring.Wizard.Step

/-!
# Validation

What each step demands before it may be left. A check reads the draft and the preview and nothing
else; the outcome of the last check of each step is kept in a `StepMessages`.
-/

namespace ToolAuthoring

/-- Whether there is a preview with more than white space in it. -/
def hasPreview (preview : Option String) : Bool :=
  match preview with
  | some code => !isBlank code
  | none => false

/-- What a step lacks. -/
inductive StepProblem where
  | kindMissing
  | nameMissing
  | previewMissing
deriving DecidableEq, Repr

/-- The text of a problem. -/
def StepProblem.message : StepProblem → String
  | .kindMissing => "Please select a tool type"
  | .nameMissing => "Tool name is required"
  | .previewMissing => "Please generate preview code first"

namespace WizardConfig

/-- Whether a draft needs generated code. -/
def requiresPreview (c : WizardConfig) (d : Draft) : Bool :=
  !c.isSelfAuthored d.kind

/-- The problem of a step, if it has one. Settings and the review demand nothing. -/
def check (c : WizardConfig) (step : Step) (d : Draft) (preview : Option String) :
    Option StepProblem :=
  match step with
  | .kind => if d.hasKind then none else some .kindMissing
  | .basics => if d.hasName then none else some .nameMissing
  | .preview =>
    if c.requiresPreview d && !hasPreview preview then some .previewMissing else none
  | .settings | .review => none

/-- Whether a draft may be submitted, unless that is already under way. -/
def canSubmit (c : WizardConfig) (d : Draft) (preview : Option String) (submitting : Bool) : Bool :=
  !submitting && (!c.requiresPreview d || hasPreview preview)

end WizardConfig

/-- The message of each step whose last check failed. -/
structure StepMessages where
  get? : Step → Option String

namespace StepMessages

/-- No step has a message. -/
def empty : StepMessages := ⟨fun _ => none⟩

/-- Note the outcome of a check: none clears the step's message. Other steps are left alone. -/
def record (m : StepMessages) (step : Step) (message : Option String) : StepMessages :=
  ⟨fun s => if s = step then message else m.get? s⟩

/-- The steps that have a message, in order, with their messages. -/
def entries (m : StepMessages) : List (Step × String) :=
  Step.all.filterMap fun s => (m.get? s).map fun message => (s, message)

/-- Whether no step has a message. -/
def isEmpty (m : StepMessages) : Bool :=
  m.entries.isEmpty

/-- Messages are written under the keys of their steps. -/
def json (m : StepMessages) : Json :=
  .record (m.entries.map fun e => (e.1.key, .text e.2))

end StepMessages

end ToolAuthoring
