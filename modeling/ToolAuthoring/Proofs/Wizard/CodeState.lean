import ToolAuthoring.Proofs.Wizard.Turns
import ToolAuthoring.Wizard.Page

/-!
# The code of a tool

A tool is written by hand, or its code is generated; then the code is there, or it is still missing.
What fills the settings, the preview and the review, what the check of the preview demands, and
whether there is submitting: each of these hangs on which of the three it is, and finds it out for
itself.

* `CodeState`, `WizardConfig.codeState`: the three cases; `codeState_eq_byHand_iff` and
  `codeState_eq_missing_iff`: when code is written by hand, and when it is missing.
* `Snapshot.previewPanel_eq`, `WizardConfig.check_preview_eq`, `WizardConfig.canSubmit_eq`,
  `ReviewSummary.codeExcerpt_eq`, `SettingsPanel.ofDraft_eq_codeEditor_iff`: each of the five, by
  cases of the code.
* `SettingsPanel.ofDraft_eq_form_iff`: when a form fills the settings.
* `Wizard.concordant`: **what fills the steps agrees with what is demanded of a draft**.
-/

namespace ToolAuthoring

/-- What there is of the code of a tool: it is written by hand, it has been generated, or it has yet
to be generated. -/
inductive CodeState where
  | byHand
  | generated (code : String)
  | missing
deriving DecidableEq, Repr

namespace WizardConfig

/-- What there is of the code of a draft. A blank preview counts as none. -/
def codeState (c : WizardConfig) (d : Draft) (preview : Option String) : CodeState :=
  if c.isSelfAuthored d.kind then .byHand
  else
    match preview.filter fun code => !isBlank code with
    | some code => .generated code
    | none => .missing

/-- The ways in which the code can be found. -/
inductive Finds (c : WizardConfig) (d : Draft) : Option String → CodeState → Prop
  | byHand {preview : Option String} (own : c.isSelfAuthored d.kind = true) :
      Finds c d preview .byHand
  | generated {code : String} (other : c.isSelfAuthored d.kind = false)
      (present : hasPreview (some code) = true) : Finds c d (some code) (.generated code)
  | blank {code : String} (other : c.isSelfAuthored d.kind = false)
      (absent : hasPreview (some code) = false) : Finds c d (some code) .missing
  | absent (other : c.isSelfAuthored d.kind = false) : Finds c d none .missing

variable (c : WizardConfig) (d : Draft) (preview : Option String)

theorem finds : c.Finds d preview (c.codeState d preview) := by
  unfold codeState
  cases hown : c.isSelfAuthored d.kind with
  | true => exact .byHand hown
  | false =>
    cases preview with
    | none => exact .absent hown
    | some code =>
      cases hblank : isBlank code with
      | true =>
        rw [Option.filter_some, hblank]
        exact .blank hown (by simp [hasPreview, hblank])
      | false =>
        rw [Option.filter_some, hblank]
        exact .generated hown (by simp [hasPreview, hblank])

/-- Code is written by hand exactly if no preview is required. -/
theorem codeState_eq_byHand_iff :
    c.codeState d preview = .byHand ↔ c.requiresPreview d = false := by
  have hfinds := c.finds d preview
  generalize c.codeState d preview = state at hfinds
  cases hfinds with
  | byHand own => simp [requiresPreview, own]
  | generated other | blank other | absent other => simp [requiresPreview, other]

/-- Code is missing exactly if a preview is required and there is none. -/
theorem codeState_eq_missing_iff :
    c.codeState d preview = .missing ↔
      c.requiresPreview d = true ∧ hasPreview preview = false := by
  have hfinds := c.finds d preview
  generalize c.codeState d preview = state at hfinds
  cases hfinds with
  | byHand own => simp [requiresPreview, own]
  | generated other present => simp [present]
  | blank other absent => simp [requiresPreview, other, absent]
  | absent other => simp [requiresPreview, other, hasPreview]

/-! ### What hangs on the code -/

theorem check_preview_eq : c.check .preview d preview =
    if c.codeState d preview = .missing then some .previewMissing else none := by
  simp [check, codeState_eq_missing_iff]

theorem canSubmit_eq (submitting : Bool) : c.canSubmit d preview submitting =
    (!submitting && decide (c.codeState d preview ≠ .missing)) := by
  simp [canSubmit, codeState_eq_missing_iff]

end WizardConfig

theorem Snapshot.previewPanel_eq (v : Snapshot) (busy : Busy) (d : Draft) (preview : Option String) :
    v.previewPanel busy d preview = match v.config.codeState d preview with
      | .byHand => .codeEditor d.code v.config.language
      | .generated code => .generated code
      | .missing => .pending (if busy.generating then "Generating..." else "Generate Preview Code")
          (!busy.generating) := by
  have hfinds := v.config.finds d preview
  generalize v.config.codeState d preview = state at hfinds
  cases hfinds with
  | byHand own => simp [previewPanel, own]
  | generated other present => simp [previewPanel, other, present]
  | blank other absent => simp [previewPanel, other, absent]
  | absent other => simp [previewPanel, other]

theorem ReviewSummary.codeExcerpt_eq (d : Draft) (preview : Option String) (c : WizardConfig) :
    (ReviewSummary.ofDraft d preview c).codeExcerpt = match c.codeState d preview with
      | .generated code => some (excerpt code c.excerptLength.toNat)
      | .byHand | .missing => none := by
  have hfinds := c.finds d preview
  generalize c.codeState d preview = state at hfinds
  cases hfinds with
  | @byHand preview own => cases preview <;> simp [ofDraft, own]
  | generated other present => simp [ofDraft, other, present]
  | blank other absent => simp [ofDraft, absent]
  | absent other => rfl

/-! ### What fills the settings -/

namespace SettingsPanel

/-- How the settings can be filled. -/
inductive Fills (d : Draft) (c : WizardConfig) (registry : FormRegistry) : SettingsPanel → Prop
  | unpicked (nothing : d.kind = none) : Fills d c registry .empty
  | byHand (picked : d.kind = some c.selfAuthored) :
      Fills d c registry (.codeEditor d.code c.language)
  | unsupported {kind : ToolKind} {title : String} (picked : d.kind = some kind)
      (other : kind ≠ c.selfAuthored) (titled : kind.unsupportedTitle? = some title) :
      Fills d c registry (.unsupported title unsupportedMessage)
  | form {kind : ToolKind} {shown : ShownForm} (picked : d.kind = some kind)
      (other : kind ≠ c.selfAuthored) (supported : kind.unsupportedTitle? = none)
      (rendered : registry.render kind d.settings = .ok shown) : Fills d c registry (.form shown)
  | unregistered {kind : ToolKind} (picked : d.kind = some kind) (other : kind ≠ c.selfAuthored)
      (supported : kind.unsupportedTitle? = none) (missing : registry.form? kind = none) :
      Fills d c registry .empty

variable {d : Draft} {c : WizardConfig} {registry : FormRegistry}

theorem fills (d : Draft) (c : WizardConfig) (registry : FormRegistry) :
    Fills d c registry (ofDraft d c registry) := by
  unfold ofDraft
  cases hkind : d.kind with
  | none => exact .unpicked hkind
  | some kind =>
    by_cases hown : kind = c.selfAuthored
    · have hauthored : c.isSelfAuthored (some kind) = true := by
        rw [WizardConfig.isSelfAuthored_iff, hown]
      simp only [if_pos hauthored]
      exact .byHand (by rw [hkind, hown])
    · have hother : ¬ c.isSelfAuthored (some kind) = true := by
        simpa [WizardConfig.isSelfAuthored_iff] using hown
      simp only [if_neg hother]
      cases htitle : kind.unsupportedTitle? with
      | some title => exact .unsupported hkind hown htitle
      | none =>
        cases hform : registry.form? kind with
        | none => exact .unregistered hkind hown htitle hform
        | some f => exact .form hkind hown htitle (by rw [FormRegistry.render, hform])

/-- The editor fills the settings exactly if the code is written by hand. -/
theorem ofDraft_eq_codeEditor_iff (preview : Option String) {code language : String} :
    ofDraft d c registry = .codeEditor code language ↔
      c.codeState d preview = .byHand ∧ code = d.code ∧ language = c.language := by
  have hown : c.codeState d preview = .byHand ↔ d.kind = some c.selfAuthored := by
    rw [WizardConfig.codeState_eq_byHand_iff, WizardConfig.requiresPreview, Bool.not_eq_false',
      WizardConfig.isSelfAuthored_iff]
  have hfills := fills d c registry
  generalize ofDraft d c registry = panel at hfills
  rw [hown]
  cases hfills with
  | byHand picked => simp [picked, eq_comm]
  | unpicked nothing => simp [nothing]
  | unsupported picked other | form picked other | unregistered picked other =>
    simp [picked, other]

/-- A form fills the settings exactly if the registry shows it for a kind that is neither written by
hand nor unsupported. -/
theorem ofDraft_eq_form_iff {form : ShownForm} :
    ofDraft d c registry = .form form ↔ ∃ kind, d.kind = some kind ∧ kind ≠ c.selfAuthored ∧
      kind.unsupportedTitle? = none ∧ registry.render kind d.settings = .ok form := by
  have hfills := fills d c registry
  generalize ofDraft d c registry = panel at hfills
  cases hfills with
  | unpicked nothing => simp [nothing]
  | byHand picked => simp [picked]
  | unsupported picked other titled => simp [picked, titled]
  | form picked other supported rendered => simp [picked, other, supported, rendered]
  | unregistered picked other supported missing => simp [picked, FormRegistry.render, missing]

end SettingsPanel

/-! ### The steps agree -/

namespace Wizard

/-- The wizard, taken to the review. -/
def atReview (w : Wizard) : Wizard :=
  { w with step := .review }

/-- What fills the steps agrees with what is demanded of a draft: there is an editor, in the settings
and in the preview and with the same text, exactly if no preview is required; the preview waits to be
generated exactly if it is demanded, and exactly then there is no submitting at the review; what has
been generated is shown in part at the review, and nothing else is; and a form is the one that the
registry shows for the settings of the draft, whatever the kind, unless it is written by hand or
unsupported. -/
structure Concordant (w : Wizard) (d : Draft) (preview : Option String) (registry : FormRegistry) :
    Prop where
  editor : ∀ code language,
    SettingsPanel.ofDraft d w.config registry = .codeEditor code language ↔
      w.snapshot.previewPanel w.busy d preview = .codeEditor code language
  byHand : ∀ code language,
    w.snapshot.previewPanel w.busy d preview = .codeEditor code language ↔
      w.config.requiresPreview d = false ∧ code = d.code ∧ language = w.config.language
  pending : (∃ label enabled, w.snapshot.previewPanel w.busy d preview = .pending label enabled) ↔
    ∃ problem, w.config.check .preview d preview = some problem
  submit : (∃ problem, w.config.check .preview d preview = some problem) ↔
    ∃ label, (w.atReview.snapshot.controls w.atReview.busy d preview).submit = some ⟨label, false⟩
  generated : (∃ code, w.snapshot.previewPanel w.busy d preview = .generated code) ↔
    ∃ text, (ReviewSummary.ofDraft d preview w.config).codeExcerpt = some text
  excerpt : ∀ code, w.snapshot.previewPanel w.busy d preview = .generated code →
    (ReviewSummary.ofDraft d preview w.config).codeExcerpt =
      some (excerpt code w.config.excerptLength.toNat)
  form : ∀ form, SettingsPanel.ofDraft d w.config registry = .form form ↔
    ∃ kind, d.kind = some kind ∧ kind ≠ w.config.selfAuthored ∧
      kind.unsupportedTitle? = none ∧ registry.render kind d.settings = .ok form

/-- With no call in flight there is no submitting at the review exactly if the code is missing. -/
theorem atReview_submit {w : Wizard} (hb : w.busy = .idle) (d : Draft) (preview : Option String) :
    (w.atReview.snapshot.controls w.atReview.busy d preview).submit =
      some ⟨if w.editing then "Update Tool" else "Create Tool",
        decide (w.config.codeState d preview ≠ .missing)⟩ := by
  have hlast : Step.review.isLast = true := Step.isLast_iff.2 rfl
  simp [Snapshot.controls, Snapshot.canSubmit, Snapshot.submitLabel, snapshot, atReview, hb, hlast,
    WizardConfig.canSubmit_eq, Busy.idle]

/-- **What fills the steps agrees with what is demanded of a draft**, as long as no call is in
flight. -/
theorem concordant {w : Wizard} (hb : w.busy = .idle) (d : Draft) (preview : Option String)
    (registry : FormRegistry) : w.Concordant d preview registry := by
  have hpanel : w.snapshot.previewPanel w.busy d preview =
      match w.config.codeState d preview with
      | .byHand => .codeEditor d.code w.config.language
      | .generated code => .generated code
      | .missing => .pending "Generate Preview Code" true := by
    rw [Snapshot.previewPanel_eq, hb]
    rfl
  have hexcerpt := ReviewSummary.codeExcerpt_eq d preview w.config
  have hcheck := w.config.check_preview_eq d preview
  have hsubmit := atReview_submit hb d preview
  -- all but the form is now told by what there is of the code
  refine
    { editor := fun code language => ?_
      byHand := fun code language => ?_
      pending := ?_
      submit := ?_
      generated := ?_
      excerpt := fun code => ?_
      form := fun _ => SettingsPanel.ofDraft_eq_form_iff }
  · rw [SettingsPanel.ofDraft_eq_codeEditor_iff preview, hpanel]
    cases w.config.codeState d preview <;> simp [eq_comm]
  · rw [hpanel, ← w.config.codeState_eq_byHand_iff d preview]
    cases w.config.codeState d preview <;> simp [eq_comm]
  · rw [hpanel, hcheck]
    cases w.config.codeState d preview <;> simp
  · rw [hcheck, hsubmit]
    cases w.config.codeState d preview <;> simp
  · rw [hpanel, hexcerpt]
    cases w.config.codeState d preview <;> simp
  · rw [hpanel, hexcerpt]
    cases w.config.codeState d preview with
    | generated text =>
      rintro ⟨⟩
      rfl
    | byHand | missing => exact nofun

/-- Of four characters that have been generated the review shows three. -/
theorem concordant_cut : ∃ (w : Wizard) (d : Draft), w.busy = .idle ∧
    w.snapshot.previewPanel w.busy d (some "pass") = .generated "pass" ∧
      (ReviewSummary.ofDraft d (some "pass") w.config).codeExcerpt = some "pas..." := by
  refine ⟨.new ⟨.customCode, 3, "python"⟩ false, { (default : Draft) with kind := some .apiCall },
    rfl, by decide, ?_⟩
  rw [(concordant rfl _ _ .empty).excerpt "pass" (by decide)]
  decide +kernel

end Wizard

end ToolAuthoring
