import ToolAuthoring.Wizard.Host
import ToolAuthoring.Wizard.Validation

/-!
# The wizard

The wizard holds where a session stands and no more; the draft and the preview are the host's.
Moves forward are validated and may first ask for a preview, moves back and jumps to steps already
passed are free. Each operation is a function from wizard and host to a `Turn`.
-/

namespace ToolAuthoring

/-- Why an operation is refused or fails. -/
inductive WizardError where
  | invalid (step : Step) (message : String)
  | previewFailed (message : String)
  | submitFailed (message : String)
  | inputRejected (message : String)
  | kindLocked
  | submitDisabled
  | notAtReview
  | previewUnavailable
deriving DecidableEq, Repr

/-- The text of a wizard error. -/
def WizardError.message : WizardError → String
  | .invalid step m => "Step " ++ step.key ++ " is invalid: " ++ m
  | .previewFailed m => "Preview generation failed: " ++ m
  | .submitFailed m => "Submit failed: " ++ m
  | .inputRejected m => "Input rejected: " ++ m
  | .kindLocked => "Tool type is locked while editing"
  | .submitDisabled => "Submit is disabled"
  | .notAtReview => "Submit is only available on the " ++ Step.last.key ++ " step"
  | .previewUnavailable => "Preview generation is not available here"

/-- The state of a wizard. -/
structure Wizard where
  config : WizardConfig
  editing : Bool
  step : Step
  messages : StepMessages
  busy : Busy

/-- How an operation ended. A dropped operation waited for a call of the host that was dropped. -/
inductive Outcome (α : Type) where
  | done (a : α)
  | failed (e : WizardError)
  | dropped
deriving DecidableEq, Repr

/-- An operation has run: wizard and host behind it, how it ended, which calls it made, and what was
logged. -/
structure Turn (σ α : Type) where
  wizard : Wizard
  host : σ
  outcome : Outcome α
  calls : List (HostCall σ)
  log : List LogRecord

namespace Wizard

/-- A log record of the wizard. -/
def note (level : LogLevel) (message : String) : LogRecord := ⟨level, .wizard, message⟩

/-- Where a session starts: the kind of an existing tool is fixed, so editing skips its step. -/
def startStep (editing : Bool) : Step :=
  if editing then .basics else .first

/-- A wizard at the start of its first session. -/
def new (config : WizardConfig) (editing : Bool) : Wizard :=
  ⟨config, editing, startStep editing, .empty, .idle⟩

/-- Start a new session. -/
def beginSession (w : Wizard) (editing : Bool) : Wizard :=
  { w with editing := editing, step := startStep editing, messages := .empty }

/-- What starting a session logs. -/
def sessionBegun (editing : Bool) : LogRecord :=
  note .info ("Wizard session started (" ++ (if editing then "editing" else "new tool")
    ++ ") at step " ++ (startStep editing).key)

/-- Check a step and keep the outcome. -/
def validate (w : Wizard) (step : Step) (d : Draft) (preview : Option String) : Wizard :=
  { w with messages := w.messages.record step ((w.config.check step d preview).map (·.message)) }

/-- What checking a step logs. -/
def validated (w : Wizard) (step : Step) (d : Draft) (preview : Option String) : List LogRecord :=
  match w.config.check step d preview with
  | some p => [note .debug ("Step " ++ step.key ++ " invalid: " ++ p.message)]
  | none => []

/-- Go back one step, if there is one. -/
def retreat (w : Wizard) : Wizard :=
  match w.step.previous? with
  | some s => { w with step := s }
  | none => w

/-- What going back logs. -/
def retreated (w : Wizard) : List LogRecord :=
  match w.step.previous? with
  | some s => [note .debug ("Wizard moved back " ++ w.step.key ++ " -> " ++ s.key)]
  | none => []

/-- Whether a step can be jumped to: it is the current one or lies before it. -/
def reaches (w : Wizard) (step : Step) : Bool :=
  step.index ≤ w.step.index

/-- Jump to a step that can be reached; any other jump is ignored. -/
def jump (w : Wizard) (step : Step) : Wizard :=
  if w.reaches step then { w with step := step } else w

/-- What a jump logs. -/
def jumped (w : Wizard) (step : Step) : List LogRecord :=
  if w.reaches step then [] else [note .debug ("Ignoring jump ahead to " ++ step.key)]

variable {σ : Type}

/-- Whether a preview has to be generated before the code can be shown. -/
def lacksPreview (w : Wizard) (h : Host σ) (s : σ) : Bool :=
  w.config.requiresPreview (h.draft s) && !hasPreview (h.preview s)

/-- Ask the host for a preview. The flag is set while the call is in flight and cleared when it has
ended, however it ended. -/
def runPreview (w : Wizard) (h : Host σ) (s : σ) : Turn σ Unit :=
  let busy := { w.busy with generating := true }
  let answer := h.generate busy s
  let w := { w with busy := { w.busy with generating := false } }
  let call : HostCall σ := ⟨.generate, busy, s, answer.ending⟩
  let asked := note .debug ("Requesting preview code for " ++ (h.draft s).name) :: answer.log
  match answer.ending with
  | .returned => ⟨w, answer.state, .done (), [call], asked⟩
  | .failed m =>
    ⟨w, answer.state, .failed (.previewFailed m), [call],
      asked ++ [note .error ("Failed to generate preview: " ++ m)]⟩
  | .dropped => ⟨w, answer.state, .dropped, [call], asked⟩

/-- The log record of a move forward. -/
def moved (step next : Step) : LogRecord :=
  note .info ("Wizard moved " ++ step.key ++ " -> " ++ next.key)

/-- Go on to the next step, if the current one is valid. Leaving the settings asks for a preview
where one is needed and none is there; if that fails the wizard stays. There is nothing behind the
review. -/
def advance (w : Wizard) (h : Host σ) (s : σ) : Turn σ Step :=
  let step := w.step
  let d := h.draft s
  let w' := w.validate step d (h.preview s)
  match w.config.check step d (h.preview s) with
  | some p =>
    ⟨w', s, .failed (.invalid step p.message), [],
      w.validated step d (h.preview s)
        ++ [note .warn ("Cannot leave step " ++ step.key ++ ": " ++ p.message)]⟩
  | none =>
    match step.next? with
    | none => ⟨w', s, .done step, [], []⟩
    | some next =>
      if step = .settings && w.lacksPreview h s then
        let t := w'.runPreview h s
        match t.outcome with
        | .done _ =>
          ⟨{ t.wizard with step := next }, t.host, .done next, t.calls, t.log ++ [moved step next]⟩
        | .failed e => ⟨t.wizard, t.host, .failed e, t.calls, t.log⟩
        | .dropped => ⟨t.wizard, t.host, .dropped, t.calls, t.log⟩
      else ⟨{ w' with step := next }, s, .done next, [], [moved step next]⟩

/-- Hand an edit to the host. The kind of an existing tool cannot be changed. -/
def input (w : Wizard) (h : Host σ) (s : σ) (e : DraftEdit) : Turn σ Unit :=
  if w.editing && e.field == .kind then ⟨w, s, .failed .kindLocked, [], []⟩
  else
    let (s', result) := h.change w.busy e s
    match result with
    | .ok _ => ⟨w, s', .done (), [⟨.change e, w.busy, s, .returned⟩], []⟩
    | .error m => ⟨w, s', .failed (.inputRejected m), [⟨.change e, w.busy, s, .failed m⟩], []⟩

/-- Pick the kind of the tool. -/
def pickKind (w : Wizard) (h : Host σ) (s : σ) (t : ToolKind) : Turn σ Unit :=
  w.input h s (.pick t)

/-- Generate a preview from the preview step, and check that step again. -/
def generate (w : Wizard) (h : Host σ) (s : σ) : Turn σ Unit :=
  if w.step = .preview && w.lacksPreview h s then
    let t := w.runPreview h s
    match t.outcome with
    | .done _ =>
      { t with
        wizard := t.wizard.validate .preview (h.draft t.host) (h.preview t.host)
        log := t.log ++ t.wizard.validated .preview (h.draft t.host) (h.preview t.host) }
    | _ => t
  else ⟨w, s, .failed .previewUnavailable, [], []⟩

/-- Whether the draft of the host can be submitted now. -/
def canSubmit (w : Wizard) (h : Host σ) (s : σ) : Bool :=
  w.step.isLast && w.config.canSubmit (h.draft s) (h.preview s) w.busy.submitting

/-- Submit the draft from the review. The flag is set while the call is in flight and cleared when
it has ended, however it ended. -/
def submit (w : Wizard) (h : Host σ) (s : σ) : Turn σ Unit :=
  if !w.step.isLast then ⟨w, s, .failed .notAtReview, [], []⟩
  else if !w.canSubmit h s then ⟨w, s, .failed .submitDisabled, [], []⟩
  else
    let busy := { w.busy with submitting := true }
    let answer := h.submit busy s
    let w := { w with busy := { w.busy with submitting := false } }
    let call : HostCall σ := ⟨.submit, busy, s, answer.ending⟩
    let asked := note .info ("Submitting tool '" ++ (h.draft s).name ++ "'") :: answer.log
    match answer.ending with
    | .returned =>
      ⟨w, answer.state, .done (), [call],
        asked ++ [note .info ("Tool '" ++ (h.draft answer.state).name ++ "' submitted")]⟩
    | .failed m =>
      ⟨w, answer.state, .failed (.submitFailed m), [call],
        asked ++ [note .error ("Failed to submit tool: " ++ m)]⟩
    | .dropped => ⟨w, answer.state, .dropped, [call], asked⟩

/-- Abandon the session. -/
def cancel (w : Wizard) (h : Host σ) (s : σ) : Turn σ Unit :=
  ⟨w, h.cancel w.busy s, .done (), [⟨.cancel, w.busy, s, .returned⟩],
    [note .info ("Wizard cancelled at step " ++ w.step.key)]⟩

end Wizard

end ToolAuthoring
