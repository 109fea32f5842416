import ToolAuthoring.Wizard.Action

/-!
# The rules of a turn

Each operation that calls the host is given here a second time, as a list of rules, one for each way
it can go: what becomes of the wizard and of the host, how the operation ends, and which call it
makes.  What is logged is left open.

* `advances`, `inputs`, `generates`, `submits`: the operations follow their rules.
* `lacksPreview_iff`, `canSubmit_iff`: the gates, in terms of draft and preview.
* `perform_frame`, `perform_config`, `perform_idle`: what actions leave alone.
-/

namespace ToolAuthoring

/-! ### The order of the steps -/

namespace Step

theorem index_injective {s t : Step} (h : s.index = t.index) : s = t := by
  cases s <;> cases t <;> first | rfl | cases h

theorem next?_eq_some {s t : Step} (h : s.next? = some t) : t.index = s.index + 1 := by
  cases s <;> cases h <;> rfl

theorem next?_eq_none {s : Step} (h : s.next? = none) : s = .review := by
  cases s <;> first | rfl | cases h

theorem previous?_eq_some {s t : Step} (h : s.previous? = some t) : t.index + 1 = s.index := by
  cases s <;> cases h <;> rfl

theorem isLast_iff {s : Step} : s.isLast = true ↔ s = .review := by
  cases s <;> decide

end Step

/-! ### Turns with another outcome -/

section Map

variable {σ α β : Type} (f : α → β) (t : Turn σ α)

@[simp] theorem Turn.map_wizard : (t.map f).wizard = t.wizard := rfl
@[simp] theorem Turn.map_outcome : (t.map f).outcome = t.outcome.map f := rfl
@[simp] theorem Turn.map_calls : (t.map f).calls = t.calls := rfl

end Map

theorem Outcome.map_eq_done {α β : Type} {f : α → β} {o : Outcome α} {b : β} :
    o.map f = .done b ↔ ∃ a, o = .done a ∧ f a = b := by
  cases o <;> simp [Outcome.map]

theorem Outcome.map_eq_failed {α β : Type} {f : α → β} {o : Outcome α} {e : WizardError} :
    o.map f = .failed e ↔ o = .failed e := by
  cases o <;> simp [Outcome.map]

namespace Wizard

variable {σ : Type}

/-! ### Asking for a preview -/

/-- The wizard after it has checked the step at which it stands. -/
def checked (w : Wizard) (h : Host σ) (s : σ) : Wizard :=
  w.validate w.step (h.draft s) (h.preview s)

/-- What is in flight while a preview is generated. -/
def generating (w : Wizard) : Busy := { w.busy with generating := true }

/-- What the host answers when it is asked for a preview. -/
def previewAnswer (w : Wizard) (h : Host σ) (s : σ) : HostAnswer σ :=
  h.generate w.generating s

/-- The call that asks for a preview. -/
def previewCall (w : Wizard) (h : Host σ) (s : σ) : HostCall σ :=
  ⟨.generate, w.generating, s, (w.previewAnswer h s).ending⟩

/-- The wizard after it has asked for a preview. -/
def asked (w : Wizard) : Wizard := { w with busy := { w.busy with generating := false } }

/-- What is in flight while a draft is submitted. -/
def submitting (w : Wizard) : Busy := { w.busy with submitting := true }

/-- What the host answers when it is asked to submit. -/
def submitAnswer (w : Wizard) (h : Host σ) (s : σ) : HostAnswer σ :=
  h.submit w.submitting s

/-- The call that submits. -/
def submitCall (w : Wizard) (h : Host σ) (s : σ) : HostCall σ :=
  ⟨.submit, w.submitting, s, (w.submitAnswer h s).ending⟩

/-- The wizard after it has submitted. -/
def submitted (w : Wizard) : Wizard := { w with busy := { w.busy with submitting := false } }

/-! ### The rules -/

/-- How asking for a preview can go. -/
inductive Asks (w : Wizard) (h : Host σ) (s : σ) : Turn σ Unit → Prop
  | returned {log : List LogRecord} (ending : (w.previewAnswer h s).ending = .returned) :
      Asks w h s ⟨w.asked, (w.previewAnswer h s).state, .done (), [w.previewCall h s], log⟩
  | failed {m : String} {log : List LogRecord}
      (ending : (w.previewAnswer h s).ending = .failed m) :
      Asks w h s ⟨w.asked, (w.previewAnswer h s).state, .failed (.previewFailed m),
        [w.previewCall h s], log⟩
  | dropped {log : List LogRecord} (ending : (w.previewAnswer h s).ending = .dropped) :
      Asks w h s ⟨w.asked, (w.previewAnswer h s).state, .dropped, [w.previewCall h s], log⟩

/-- How moving on can go. -/
inductive Advances (w : Wizard) (h : Host σ) (s : σ) : Turn σ Step → Prop
  | refused {p : StepProblem} {log : List LogRecord}
      (problem : w.config.check w.step (h.draft s) (h.preview s) = some p) :
      Advances w h s ⟨w.checked h s, s, .failed (.invalid w.step p.message), [], log⟩
  | stayed {log : List LogRecord} (here : w.step = .review) :
      Advances w h s ⟨w.checked h s, s, .done w.step, [], log⟩
  | moved {next : Step} {log : List LogRecord}
      (valid : w.config.check w.step (h.draft s) (h.preview s) = none)
      (ahead : w.step.next? = some next)
      (free : ¬ (w.step = .settings ∧ w.lacksPreview h s = true)) :
      Advances w h s ⟨{ w.checked h s with step := next }, s, .done next, [], log⟩
  | generated {log : List LogRecord} (here : w.step = .settings) (lacks : w.lacksPreview h s = true)
      (ending : (w.previewAnswer h s).ending = .returned) :
      Advances w h s ⟨{ (w.checked h s).asked with step := .preview }, (w.previewAnswer h s).state,
        .done .preview, [w.previewCall h s], log⟩
  | failed {m : String} {log : List LogRecord} (here : w.step = .settings)
      (lacks : w.lacksPreview h s = true) (ending : (w.previewAnswer h s).ending = .failed m) :
      Advances w h s ⟨(w.checked h s).asked, (w.previewAnswer h s).state,
        .failed (.previewFailed m), [w.previewCall h s], log⟩
  | dropped {log : List LogRecord} (here : w.step = .settings) (lacks : w.lacksPreview h s = true)
      (ending : (w.previewAnswer h s).ending = .dropped) :
      Advances w h s ⟨(w.checked h s).asked, (w.previewAnswer h s).state, .dropped,
        [w.previewCall h s], log⟩

/-- How handing on an edit can go. -/
inductive Inputs (w : Wizard) (h : Host σ) (s : σ) (e : DraftEdit) : Turn σ Unit → Prop
  | locked {log : List LogRecord} (editing : w.editing = true) (kind : e.field = .kind) :
      Inputs w h s e ⟨w, s, .failed .kindLocked, [], log⟩
  | accepted {log : List LogRecord} (free : ¬ (w.editing = true ∧ e.field = .kind))
      (ending : (h.change w.busy e s).2 = .ok ()) :
      Inputs w h s e ⟨w, (h.change w.busy e s).1, .done (),
        [⟨.change e, w.busy, s, .returned⟩], log⟩
  | rejected {m : String} {log : List LogRecord} (free : ¬ (w.editing = true ∧ e.field = .kind))
      (ending : (h.change w.busy e s).2 = .error m) :
      Inputs w h s e ⟨w, (h.change w.busy e s).1, .failed (.inputRejected m),
        [⟨.change e, w.busy, s, .failed m⟩], log⟩

/-- How generating a preview on demand can go. -/
inductive Generates (w : Wizard) (h : Host σ) (s : σ) : Turn σ Unit → Prop
  | unavailable {log : List LogRecord} (gate : ¬ (w.step = .preview ∧ w.lacksPreview h s = true)) :
      Generates w h s ⟨w, s, .failed .previewUnavailable, [], log⟩
  | generated {log : List LogRecord} (here : w.step = .preview) (lacks : w.lacksPreview h s = true)
      (ending : (w.previewAnswer h s).ending = .returned) :
      Generates w h s ⟨w.asked.checked h (w.previewAnswer h s).state, (w.previewAnswer h s).state,
        .done (), [w.previewCall h s], log⟩
  | failed {m : String} {log : List LogRecord} (here : w.step = .preview)
      (lacks : w.lacksPreview h s = true) (ending : (w.previewAnswer h s).ending = .failed m) :
      Generates w h s ⟨w.asked, (w.previewAnswer h s).state, .failed (.previewFailed m),
        [w.previewCall h s], log⟩
  | dropped {log : List LogRecord} (here : w.step = .preview) (lacks : w.lacksPreview h s = true)
      (ending : (w.previewAnswer h s).ending = .dropped) :
      Generates w h s ⟨w.asked, (w.previewAnswer h s).state, .dropped, [w.previewCall h s], log⟩

/-- How submitting can go. -/
inductive Submits (w : Wizard) (h : Host σ) (s : σ) : Turn σ Unit → Prop
  | elsewhere {log : List LogRecord} (here : w.step ≠ .review) :
      Submits w h s ⟨w, s, .failed .notAtReview, [], log⟩
  | disabled {log : List LogRecord} (here : w.step = .review) (gate : w.canSubmit h s = false) :
      Submits w h s ⟨w, s, .failed .submitDisabled, [], log⟩
  | submitted {log : List LogRecord} (gate : w.canSubmit h s = true)
      (ending : (w.submitAnswer h s).ending = .returned) :
      Submits w h s ⟨w.submitted, (w.submitAnswer h s).state, .done (), [w.submitCall h s], log⟩
  | failed {m : String} {log : List LogRecord} (gate : w.canSubmit h s = true)
      (ending : (w.submitAnswer h s).ending = .failed m) :
      Submits w h s ⟨w.submitted, (w.submitAnswer h s).state, .failed (.submitFailed m),
        [w.submitCall h s], log⟩
  | dropped {log : List LogRecord} (gate : w.canSubmit h s = true)
      (ending : (w.submitAnswer h s).ending = .dropped) :
      Submits w h s ⟨w.submitted, (w.submitAnswer h s).state, .dropped, [w.submitCall h s], log⟩

/-! ### The operations follow their rules -/

theorem asks (w : Wizard) (h : Host σ) (s : σ) : w.Asks h s (w.runPreview h s) := by
  simp only [runPreview]
  split
  · rename_i he
    exact .returned he
  · rename_i m he
    exact .failed he
  · rename_i he
    exact .dropped he

theorem advances (w : Wizard) (h : Host σ) (s : σ) : w.Advances h s (w.advance h s) := by
  cases hc : w.config.check w.step (h.draft s) (h.preview s) with
  | some p =>
    simp only [advance, hc]
    exact .refused hc
  | none =>
    cases hn : w.step.next? with
    | none =>
      simp only [advance, hc, hn]
      exact .stayed (Step.next?_eq_none hn)
    | some next =>
      by_cases hl : w.step = .settings ∧ w.lacksPreview h s = true
      · obtain rfl : Step.preview = next := by
          rw [hl.1] at hn
          exact Option.some.inj hn
        have ha := (w.checked h s).asks h s
        simp only [advance, hc, hn, Bool.and_eq_true, decide_eq_true_eq, if_pos hl]
        rw [← checked]
        generalize (w.checked h s).runPreview h s = t at ha
        cases ha with
        | returned he => exact .generated hl.1 hl.2 he
        | failed he => exact .failed hl.1 hl.2 he
        | dropped he => exact .dropped hl.1 hl.2 he
      · simp only [advance, hc, hn, Bool.and_eq_true, decide_eq_true_eq, if_neg hl]
        exact .moved hc hn hl

theorem inputs (w : Wizard) (h : Host σ) (s : σ) (e : DraftEdit) :
    w.Inputs h s e (w.input h s e) := by
  simp only [input, Bool.and_eq_true, beq_iff_eq]
  split
  · rename_i hl
    exact .locked hl.1 hl.2
  · rename_i hl
    cases he : (h.change w.busy e s).2 with
    | ok u => exact .accepted hl he
    | error m => exact .rejected hl he

theorem generates (w : Wizard) (h : Host σ) (s : σ) : w.Generates h s (w.generate h s) := by
  simp only [generate, Bool.and_eq_true, decide_eq_true_eq]
  split
  · rename_i hl
    have ha := w.asks h s
    generalize w.runPreview h s = t at ha
    cases ha with
    | returned he =>
      have hc : w.asked.checked h (w.previewAnswer h s).state = w.asked.validate .preview
          (h.draft (w.previewAnswer h s).state) (h.preview (w.previewAnswer h s).state) := by
        rw [checked, show w.asked.step = .preview from hl.1]
      simp only [← hc]
      exact .generated hl.1 hl.2 he
    | failed he => exact .failed hl.1 hl.2 he
    | dropped he => exact .dropped hl.1 hl.2 he
  · rename_i hl
    exact .unavailable hl

theorem submits (w : Wizard) (h : Host σ) (s : σ) : w.Submits h s (w.submit h s) := by
  by_cases hl : w.step = .review
  · by_cases hg : w.canSubmit h s = true
    · simp only [submit, Step.isLast_iff.2 hl, hg, Bool.not_true, Bool.false_eq_true, if_false]
      split
      · rename_i he
        exact .submitted hg he
      · rename_i m he
        exact .failed hg he
      · rename_i he
        exact .dropped hg he
    · rw [Bool.not_eq_true] at hg
      simp only [submit, Step.isLast_iff.2 hl, hg, Bool.not_true, Bool.not_false,
        Bool.false_eq_true, if_false, if_true]
      exact .disabled hl hg
  · have hf : w.step.isLast = false := by
      rw [← Bool.not_eq_true, Step.isLast_iff]
      exact hl
    simp only [submit, hf, Bool.not_false, if_true]
    exact .elsewhere hl

end Wizard

/-! ### Gates -/

theorem hasPreview_iff {preview : Option String} :
    hasPreview preview = true ↔ ∃ code ∈ preview, isBlank code = false := by
  cases preview <;> simp [hasPreview]

theorem hasPreview_eq_false_iff {preview : Option String} :
    hasPreview preview = false ↔ ∀ code ∈ preview, isBlank code = true := by
  cases preview <;> simp [hasPreview]

theorem WizardConfig.check_kind_eq_none {c : WizardConfig} {d : Draft} {preview : Option String} :
    c.check .kind d preview = none ↔ d.hasKind = true := by
  simp [check]

theorem WizardConfig.check_basics_eq_none {c : WizardConfig} {d : Draft}
    {preview : Option String} : c.check .basics d preview = none ↔ d.hasName = true := by
  simp [check]

theorem WizardConfig.isSelfAuthored_iff {c : WizardConfig} {kind : Option ToolKind} :
    c.isSelfAuthored kind = true ↔ kind = some c.selfAuthored := by
  simp [isSelfAuthored]

namespace Wizard

variable {σ : Type}

theorem lacksPreview_iff {w : Wizard} {h : Host σ} {s : σ} : w.lacksPreview h s = true ↔
    (h.draft s).kind ≠ some w.config.selfAuthored ∧
      ∀ code ∈ h.preview s, isBlank code = true := by
  rw [← hasPreview_eq_false_iff, ne_eq, ← WizardConfig.isSelfAuthored_iff]
  simp [lacksPreview, WizardConfig.requiresPreview]

theorem canSubmit_iff {w : Wizard} {h : Host σ} {s : σ} : w.canSubmit h s = true ↔
    w.step = .review ∧ w.busy.submitting = false ∧
      ((h.draft s).kind = some w.config.selfAuthored ∨
        ∃ code ∈ h.preview s, isBlank code = false) := by
  rw [← hasPreview_iff, ← WizardConfig.isSelfAuthored_iff]
  simp [canSubmit, WizardConfig.canSubmit, WizardConfig.requiresPreview, Step.isLast_iff]

end Wizard

/-! ### Where an operation leads -/

namespace Wizard

variable {σ : Type}

theorem advance_step_of_done {w : Wizard} {h : Host σ} {s : σ} {next : Step}
    (hd : (w.advance h s).outcome = .done next) : (w.advance h s).wizard.step = next ∧
      (w.step.next? = some next ∨ w.step = .review ∧ next = .review) := by
  have ha := w.advances h s
  generalize w.advance h s = t at ha hd
  cases ha with
  | refused | failed | dropped => cases hd
  | stayed hr =>
    cases hd
    exact ⟨rfl, .inr ⟨hr, hr⟩⟩
  | moved _ hn _ =>
    cases hd
    exact ⟨rfl, .inl hn⟩
  | generated hs _ _ =>
    cases hd
    exact ⟨rfl, .inl (by rw [hs]; rfl)⟩

theorem advance_step_or_done (w : Wizard) (h : Host σ) (s : σ) :
    (w.advance h s).wizard.step = w.step ∨ ∃ next, (w.advance h s).outcome = .done next := by
  have ha := w.advances h s
  generalize w.advance h s = t at ha
  cases ha with
  | refused | failed | dropped => exact .inl rfl
  | stayed | moved | generated => exact .inr ⟨_, rfl⟩

theorem runPreview_wizard (w : Wizard) (h : Host σ) (s : σ) :
    (w.runPreview h s).wizard = w.asked := by
  have ha := w.asks h s
  generalize w.runPreview h s = t at ha
  cases ha <;> rfl

theorem generate_step (w : Wizard) (h : Host σ) (s : σ) :
    (w.generate h s).wizard.step = w.step := by
  have hg := w.generates h s
  generalize w.generate h s = t at hg
  cases hg <;> rfl

theorem submit_step (w : Wizard) (h : Host σ) (s : σ) : (w.submit h s).wizard.step = w.step := by
  have hs := w.submits h s
  generalize w.submit h s = t at hs
  cases hs <;> rfl

theorem input_wizard (w : Wizard) (h : Host σ) (s : σ) (e : DraftEdit) :
    (w.input h s e).wizard = w := by
  have hi := w.inputs h s e
  generalize w.input h s e = t at hi
  cases hi <;> rfl

theorem retreat_index_le (w : Wizard) : w.retreat.step.index ≤ w.step.index := by
  unfold retreat
  split
  · rename_i s hs
    have hi := Step.previous?_eq_some hs
    show s.index ≤ w.step.index
    omega
  · exact Nat.le_refl _

theorem jump_index_le (w : Wizard) (step : Step) : (w.jump step).step.index ≤ w.step.index := by
  unfold jump
  split
  · rename_i hr
    exact of_decide_eq_true hr
  · exact Nat.le_refl _

end Wizard

/-! ### Which messages an operation leaves -/

namespace Wizard

variable {σ : Type}

theorem advance_messages (w : Wizard) (h : Host σ) (s : σ) :
    (w.advance h s).wizard.messages = (w.checked h s).messages := by
  have ha := w.advances h s
  generalize w.advance h s = t at ha
  cases ha <;> rfl

theorem generate_messages_of_failed {w : Wizard} {h : Host σ} {s : σ} {e : WizardError}
    (hf : (w.generate h s).outcome = .failed e) :
    (w.generate h s).wizard.messages = w.messages := by
  have hg := w.generates h s
  generalize w.generate h s = t at hg hf
  cases hg with
  | generated => cases hf
  | unavailable | failed | dropped => rfl

theorem submit_messages (w : Wizard) (h : Host σ) (s : σ) :
    (w.submit h s).wizard.messages = w.messages := by
  have hs := w.submits h s
  generalize w.submit h s = t at hs
  cases hs <;> rfl

theorem checked_messages (w : Wizard) (h : Host σ) (s : σ) (j : Step) :
    (w.checked h s).messages.get? j = if j = w.step then
      (w.config.check w.step (h.draft s) (h.preview s)).map (·.message) else w.messages.get? j :=
  rfl

end Wizard

/-! ### What no action changes -/

/-- The mode of the session that an action starts, if it starts one. -/
def Action.opens? : Action → Option Bool
  | .start editing => some editing
  | _ => none

/-- The edit that an action asks for, if it asks for one. -/
def Action.edit? : Action → Option DraftEdit
  | .input e => some e
  | .pickKind t => some (.pick t)
  | _ => none

namespace Wizard

variable {σ : Type}

theorem asked_idle {w : Wizard} (hb : w.busy = .idle) : w.asked.busy = .idle := by
  rw [asked, hb]
  rfl

theorem submitted_idle {w : Wizard} (hb : w.busy = .idle) : w.submitted.busy = .idle := by
  rw [submitted, hb]
  rfl

/-- What an operation within a session leaves alone: configuration, mode and idleness. -/
structure Frames (w w' : Wizard) : Prop where
  config : w'.config = w.config
  editing : w'.editing = w.editing
  idle : w.busy = .idle → w'.busy = .idle

theorem advance_frame (w : Wizard) (h : Host σ) (s : σ) : w.Frames (w.advance h s).wizard := by
  have ha := w.advances h s
  generalize w.advance h s = t at ha
  cases ha with
  | refused | stayed | moved => exact ⟨rfl, rfl, id⟩
  | generated | failed | dropped => exact ⟨rfl, rfl, asked_idle (w := w.checked h s)⟩

theorem generate_frame (w : Wizard) (h : Host σ) (s : σ) : w.Frames (w.generate h s).wizard := by
  have hg := w.generates h s
  generalize w.generate h s = t at hg
  cases hg with
  | unavailable => exact ⟨rfl, rfl, id⟩
  | generated | failed | dropped => exact ⟨rfl, rfl, asked_idle⟩

theorem submit_frame (w : Wizard) (h : Host σ) (s : σ) : w.Frames (w.submit h s).wizard := by
  have hs := w.submits h s
  generalize w.submit h s = t at hs
  cases hs with
  | elsewhere | disabled => exact ⟨rfl, rfl, id⟩
  | submitted | failed | dropped => exact ⟨rfl, rfl, submitted_idle⟩

theorem jump_frame (w : Wizard) (step : Step) : w.Frames (w.jump step) := by
  unfold jump
  split <;> exact ⟨rfl, rfl, id⟩

theorem retreat_frame (w : Wizard) : w.Frames w.retreat := by
  unfold retreat
  split <;> exact ⟨rfl, rfl, id⟩

theorem perform_frame (w : Wizard) (h : Host σ) (s : σ) {a : Action} (ha : a.opens? = none) :
    w.Frames (w.perform h s a).wizard := by
  cases a with
  | start editing => cases ha
  | advance => exact w.advance_frame h s
  | retreat => exact w.retreat_frame
  | jump step => exact w.jump_frame step
  | validate step d preview => exact ⟨rfl, rfl, id⟩
  | input e =>
    simp only [perform, Turn.map_wizard, input_wizard]
    exact ⟨rfl, rfl, id⟩
  | pickKind t =>
    simp only [perform, pickKind, Turn.map_wizard, input_wizard]
    exact ⟨rfl, rfl, id⟩
  | generate => exact w.generate_frame h s
  | submit => exact w.submit_frame h s
  | cancel => exact ⟨rfl, rfl, id⟩

theorem perform_of_opens {w : Wizard} {h : Host σ} {s : σ} {a : Action} {editing : Bool}
    (ha : a.opens? = some editing) : (w.perform h s a).wizard = w.beginSession editing := by
  cases a with
  | start editing' =>
    cases ha
    rfl
  | _ => cases ha

theorem perform_edit {w : Wizard} {h : Host σ} {s : σ} {a : Action} {e : DraftEdit}
    (ha : a.edit? = some e) : w.perform h s a = (w.input h s e).map fun _ => .nothing := by
  cases a with
  | input e' | pickKind t =>
    cases ha
    rfl
  | _ => cases ha

theorem perform_of_edit {w : Wizard} {h : Host σ} {s : σ} {a : Action} {e : DraftEdit}
    (ha : a.edit? = some e) : (w.perform h s a).wizard = w := by
  rw [perform_edit ha]
  exact w.input_wizard h s e

theorem perform_config (w : Wizard) (h : Host σ) (s : σ) (a : Action) :
    (w.perform h s a).wizard.config = w.config := by
  cases ha : a.opens? with
  | none => exact (w.perform_frame h s ha).config
  | some editing => rw [perform_of_opens ha, beginSession]

theorem perform_idle {w : Wizard} (hb : w.busy = .idle) (h : Host σ) (s : σ) (a : Action) :
    (w.perform h s a).wizard.busy = .idle := by
  cases ha : a.opens? with
  | none => exact (w.perform_frame h s ha).idle hb
  | some editing => rw [perform_of_opens ha, beginSession, hb]

end Wizard

end ToolAuthoring
