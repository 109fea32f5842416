import ToolAuthoring.Proofs.Wizard.Calls
import ToolAuthoring.Proofs.Wizard.CodeState

/-!
# What is offered is done

The step bar, the buttons and the page tell what can be done with a wizard.  They work it out from
step, mode, draft and preview for themselves and do not ask the operations.  Here both are brought
together: an operation does what it is for exactly where it is offered.

* `offered_next_iff`, `offered_submit_iff`, `offersPreview_iff`, `lockedPicker_iff`: when something
  is offered.
* `retreat_step_ne_iff`, `advance_step_ne_iff`, `submit_refused_iff`, `generate_refused_iff`,
  `pickKind_locked_iff`: when an operation does something, and when it is refused.
* `Wizard.honours`: **what a wizard offers it does, and nothing else**.
-/

namespace ToolAuthoring

/-! ### What is offered -/

/-- There is a button, and it can be pressed. -/
def Button.Offered (b : Option Button) : Prop :=
  ∃ x ∈ b, x.enabled = true

/-- The page has a button that asks for a preview, and it can be pressed. -/
def PageBody.OffersPreview (b : PageBody) : Prop :=
  ∃ label, b = .preview (.pending label true)

/-- The page shows the kinds of tools, and none can be picked. -/
def PageBody.LockedPicker (b : PageBody) : Prop :=
  ∃ groups selected, b = .kindPicker groups selected true

namespace Snapshot

variable {v : Snapshot} {busy : Busy} {d : Draft} {preview : Option String}

theorem offered_next_iff : Button.Offered (v.controls busy d preview).next ↔
    v.step ≠ .review ∧ busy.generating = false := by
  by_cases hr : v.step = .review
  · have hnone : (v.controls busy d preview).next = none := by
      rw [controls, if_pos (Step.isLast_iff.2 hr)]
    simp [Button.Offered, hnone, hr]
  · simp [Button.Offered, controls, Step.isLast_iff, hr]

theorem offered_submit_iff : Button.Offered (v.controls busy d preview).submit ↔
    v.canSubmit busy d preview = true := by
  by_cases hr : v.step.isLast = true
  · simp [Button.Offered, controls, hr]
  · simp [Button.Offered, controls, canSubmit, hr]

/-- A pending panel has a button that can be pressed unless a preview is on its way. -/
theorem previewPanel_eq_pending_iff {label : String} :
    v.previewPanel busy d preview = .pending label true ↔
      v.config.requiresPreview d = true ∧ hasPreview preview = false ∧
        busy.generating = false ∧ label = "Generate Preview Code" := by
  rw [previewPanel_eq, ← and_assoc, ← WizardConfig.codeState_eq_missing_iff]
  cases v.config.codeState d preview with
  | byHand | generated => simp
  | missing => cases busy.generating <;> simp [eq_comm]

end Snapshot

namespace Wizard

variable {σ : Type}

/-- The buttons of a wizard and its host. -/
def controls (w : Wizard) (h : Host σ) (s : σ) : Controls :=
  w.snapshot.controls w.busy (h.draft s) (h.preview s)

/-- What fills the current step of a wizard and its host. -/
def shown (w : Wizard) (h : Host σ) (s : σ) (registry : FormRegistry) : PageBody :=
  (w.page (h.draft s) (h.preview s) registry).body

theorem offersPreview_iff {w : Wizard} {h : Host σ} {s : σ} {registry : FormRegistry} :
    (w.shown h s registry).OffersPreview ↔
      w.step = .preview ∧ w.lacksPreview h s = true ∧ w.busy.generating = false := by
  cases hs : w.step with
  | preview =>
    simp only [shown, page, body, hs, PageBody.OffersPreview, PageBody.preview.injEq,
      Snapshot.previewPanel_eq_pending_iff]
    simp [lacksPreview, snapshot, and_assoc]
  | kind | basics | settings | review =>
    simp [shown, page, body, hs, PageBody.OffersPreview]

theorem lockedPicker_iff {w : Wizard} {h : Host σ} {s : σ} {registry : FormRegistry} :
    (w.shown h s registry).LockedPicker ↔ w.step = .kind ∧ w.editing = true := by
  cases hs : w.step <;> simp [shown, page, body, hs, PageBody.LockedPicker]

/-! ### What is done -/

theorem retreat_step_ne_iff {w : Wizard} :
    w.retreat.step ≠ w.step ↔ w.step.previous?.isSome = true := by
  cases hp : w.step.previous? with
  | none => simp [retreat, hp]
  | some s =>
    have hi := Step.previous?_eq_some hp
    have hne : s ≠ w.step := by
      rintro rfl
      omega
    simp [retreat, hp, hne]

theorem jump_step (w : Wizard) (step : Step) :
    (w.jump step).step = if w.reaches step then step else w.step := by
  unfold jump
  split <;> rfl

/-- Moving on with success stays only at the review. -/
theorem advance_step_ne_iff {w : Wizard} {h : Host σ} {s : σ} {next : Step}
    (hd : (w.advance h s).outcome = .done next) :
    (w.advance h s).wizard.step ≠ w.step ↔ w.step.next?.isSome = true := by
  obtain ⟨hs, hn | ⟨hr, hn⟩⟩ := advance_step_of_done hd
  · have hi := Step.next?_eq_some hn
    have hne : next ≠ w.step := by
      rintro rfl
      omega
    simp [hs, hn, hne]
  · rw [hs, hr, hn]
    decide

theorem submit_refused_iff {w : Wizard} {h : Host σ} {s : σ} :
    w.canSubmit h s = false ↔ (w.submit h s).outcome = .failed .notAtReview ∨
      (w.submit h s).outcome = .failed .submitDisabled := by
  have hs := w.submits h s
  generalize w.submit h s = t at hs
  cases hs with
  | elsewhere hr => simp [canSubmit, Step.isLast_iff, hr]
  | disabled _ hg => simp [hg]
  | submitted hg | failed hg | dropped hg => simp [hg]

theorem generate_refused_iff {w : Wizard} {h : Host σ} {s : σ} :
    ¬ (w.step = .preview ∧ w.lacksPreview h s = true) ↔
      (w.generate h s).outcome = .failed .previewUnavailable := by
  have hg := w.generates h s
  generalize w.generate h s = t at hg
  cases hg with
  | unavailable hl => simp [hl]
  | generated hs hl | failed hs hl | dropped hs hl => simp [hs, hl]

theorem pickKind_locked_iff {w : Wizard} {h : Host σ} {s : σ} {t : ToolKind} :
    w.editing = true ↔ (w.pickKind h s t).outcome = .failed .kindLocked := by
  have hi := w.inputs h s (.pick t)
  rw [← pickKind] at hi
  generalize w.pickKind h s t = u at hi
  cases hi with
  | locked he => simp [he]
  | accepted hl | rejected hl => simpa [DraftEdit.pick] using hl

/-! ### Offered and done -/

/-- What is offered is done and what is not offered is refused: the step bar leads to the steps that
can be clicked and to no other; there is a button back exactly if going back changes the step, and
one forward exactly if there is a step ahead, to which every successful move leads; submitting and
asking for a preview reach the host exactly where their buttons can be pressed; the picker is locked
exactly if picking a kind is refused as locked; and what does not reach the host leaves it as it
was. -/
structure Honours (w : Wizard) (h : Host σ) (s : σ) (registry : FormRegistry) : Prop where
  bar : w.markers.map (·.step) = Step.all
  clickable : ∀ m ∈ w.markers, m.clickable = true ↔
    (w.perform h s (.jump m.step)).outcome = .done (.success true)
  jump : ∀ m ∈ w.markers, (w.perform h s (.jump m.step)).wizard.step =
    if m.clickable then m.step else w.step
  previous : (w.controls h s).previous.isSome = true ↔
    (w.perform h s .retreat).wizard.step ≠ w.step
  next : Button.Offered (w.controls h s).next ↔ ∃ step, w.step.next? = some step
  advance : ∀ r, (w.perform h s .advance).outcome = .done r →
    (Button.Offered (w.controls h s).next ↔ (w.perform h s .advance).wizard.step ≠ w.step)
  submit : Button.Offered (w.controls h s).submit ↔ .submit ∈ (w.perform h s .submit).requests
  refused : ¬ Button.Offered (w.controls h s).submit ↔
    (w.perform h s .submit).outcome = .failed .notAtReview ∨
      (w.perform h s .submit).outcome = .failed .submitDisabled
  generate : (w.shown h s registry).OffersPreview ↔
    w.step = .preview ∧ .generate ∈ (w.perform h s .generate).requests
  unavailable : ¬ (w.shown h s registry).OffersPreview ↔
    (w.perform h s .generate).outcome = .failed .previewUnavailable
  locked : w.step = .kind → ∀ t, (w.shown h s registry).LockedPicker ↔
    (w.perform h s (.pickKind t)).outcome = .failed .kindLocked
  silent : ∀ a, (w.perform h s a).requests = [] → (w.perform h s a).host = s

theorem offered_next_iff {w : Wizard} (hb : w.busy = .idle) {h : Host σ} {s : σ} :
    Button.Offered (w.controls h s).next ↔ w.step.next?.isSome = true := by
  rw [controls, Snapshot.offered_next_iff, hb]
  show w.step ≠ .review ∧ Busy.idle.generating = false ↔ _
  cases w.step <;> decide

theorem offered_submit_iff {w : Wizard} {h : Host σ} {s : σ} :
    Button.Offered (w.controls h s).submit ↔ w.canSubmit h s = true :=
  Snapshot.offered_submit_iff

/-- **What a wizard offers it does, and nothing else.** -/
theorem honours {w : Wizard} (hw : Reachable w) (h : Host σ) (s : σ) (registry : FormRegistry) :
    w.Honours h s registry := by
  have hidle : w.busy.generating = false := by
    rw [hw.idle]
    rfl
  have hjump (m : StepMarker) (hm : m ∈ w.markers) : m.clickable = w.reaches m.step := by
    obtain ⟨step, -, rfl⟩ := List.mem_map.1 hm
    rfl
  have hoffers : (w.shown h s registry).OffersPreview ↔
      w.step = .preview ∧ w.lacksPreview h s = true := by
    rw [offersPreview_iff]
    simp [hidle]
  exact {
    bar := rfl
    clickable := by
      intro m hm
      rw [hjump m hm]
      show _ ↔ Outcome.done (Reply.success (w.reaches m.step)) = _
      simp
    jump := by
      intro m hm
      rw [hjump m hm]
      exact w.jump_step m.step
    previous := by
      rw [← show w.step.previous?.isSome = (w.controls h s).previous.isSome from
        Option.isSome_map.symm]
      exact retreat_step_ne_iff.symm
    next := by rw [offered_next_iff hw.idle, Option.isSome_iff_exists]
    advance := by
      intro r hd
      obtain ⟨next, hn, -⟩ := Outcome.map_eq_done.1 hd
      rw [offered_next_iff hw.idle]
      exact (advance_step_ne_iff hn).symm
    submit := by rw [offered_submit_iff, submit_mem_requests]; simp
    refused := by
      rw [offered_submit_iff, Bool.not_eq_true, submit_refused_iff]
      simp only [perform, Turn.map_outcome, Outcome.map_eq_failed]
    generate := by
      rw [hoffers, generate_mem_requests]
      simp
    unavailable := by
      rw [hoffers, generate_refused_iff]
      simp only [perform, Turn.map_outcome, Outcome.map_eq_failed]
    locked := by
      intro hs t
      rw [lockedPicker_iff, pickKind_locked_iff (h := h) (s := s) (t := t)]
      simp only [hs, true_and, perform, Turn.map_outcome, Outcome.map_eq_failed]
    silent := fun _ hr => perform_host_of_calls_eq_nil (List.map_eq_nil_iff.1 hr) }

/-- A wizard at the preview of a tool without one offers to generate it, and does so. -/
theorem honours_missing_preview : ∃ w : Wizard, Reachable w ∧
    (w.shown Rehearsal.host Rehearsal.fetch .empty).OffersPreview ∧
      .generate ∈ (w.perform Rehearsal.host Rehearsal.fetch .generate).requests := by
  let start : Wizard := .new .standard false
  let w : Wizard := (replay Rehearsal.host start .fetch [.advance, .advance, .advance]).2.1
  have hw : Reachable w := (replay_run ..).reachable (.new .standard false)
  have hshown : (w.shown Rehearsal.host Rehearsal.fetch .empty).OffersPreview :=
    ⟨"Generate Preview Code", by decide⟩
  exact ⟨w, hw, hshown, ((honours hw Rehearsal.host .fetch .empty).generate.1 hshown).2⟩

end Wizard

end ToolAuthoring
