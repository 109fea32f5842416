import Mathlib.Data.List.Forall2
import ToolAuthoring.Proofs.Wizard.Calls
import ToolAuthoring.Wizard.Chrome

/-!
# The four signals

All that the wizard makes of a draft and a preview are four signals: whether a kind is picked,
whether it is the self-authored one, whether there is a name and whether there is a preview.  What
else is in the draft, and what the texts say, shows in the pages and in the log and nowhere else.

* `check_congr`, `canSubmit_congr`, `controls_congr`: checks, gates and buttons depend on the
  signals only.
* `Wizard.perform_agrees`: so does every action, but for what the host does in it.
* `Run.agrees`: **two runs with the same signals go the same way**.
-/

namespace ToolAuthoring

/-- What the wizard sees of a draft and a preview. -/
structure Signals where
  kindPicked : Bool
  selfAuthored : Bool
  named : Bool
  previewed : Bool
deriving DecidableEq

/-- The signals of a draft and a preview. -/
def WizardConfig.signals (c : WizardConfig) (d : Draft) (preview : Option String) : Signals :=
  ⟨d.hasKind, c.isSelfAuthored d.kind, d.hasName, hasPreview preview⟩

/-- The signals of a host. -/
def Host.signals {σ : Type} (h : Host σ) (c : WizardConfig) (s : σ) : Signals :=
  c.signals (h.draft s) (h.preview s)

/-! ### Checks, gates and buttons -/

section Gates

variable {c : WizardConfig} {d₁ d₂ : Draft} {preview₁ preview₂ : Option String}

theorem WizardConfig.check_congr (hg : c.signals d₁ preview₁ = c.signals d₂ preview₂)
    (step : Step) : c.check step d₁ preview₁ = c.check step d₂ preview₂ := by
  obtain ⟨hk, hs, hn, hp⟩ := Signals.mk.inj hg
  cases step <;> simp [check, requiresPreview, hk, hs, hn, hp]

theorem WizardConfig.canSubmit_congr (hg : c.signals d₁ preview₁ = c.signals d₂ preview₂)
    (submitting : Bool) :
    c.canSubmit d₁ preview₁ submitting = c.canSubmit d₂ preview₂ submitting := by
  obtain ⟨-, hs, -, hp⟩ := Signals.mk.inj hg
  simp only [canSubmit, requiresPreview, hs, hp]

theorem Wizard.validate_congr {w : Wizard}
    (hg : w.config.signals d₁ preview₁ = w.config.signals d₂ preview₂) (step : Step) :
    w.validate step d₁ preview₁ = w.validate step d₂ preview₂ := by
  rw [validate, validate, WizardConfig.check_congr hg]

theorem Snapshot.controls_congr {v : Snapshot}
    (hg : v.config.signals d₁ preview₁ = v.config.signals d₂ preview₂) (busy : Busy) :
    v.controls busy d₁ preview₁ = v.controls busy d₂ preview₂ := by
  simp only [controls, canSubmit, WizardConfig.canSubmit_congr hg]

end Gates

variable {σ₁ σ₂ : Type} {h₁ : Host σ₁} {h₂ : Host σ₂} {s₁ : σ₁} {s₂ : σ₂} {w : Wizard}

theorem Wizard.lacksPreview_congr (hg : h₁.signals w.config s₁ = h₂.signals w.config s₂) :
    w.lacksPreview h₁ s₁ = w.lacksPreview h₂ s₂ := by
  obtain ⟨-, hs, -, hp⟩ := Signals.mk.inj hg
  simp only [lacksPreview, WizardConfig.requiresPreview, hs, hp]

theorem Wizard.canSubmit_congr (hg : h₁.signals w.config s₁ = h₂.signals w.config s₂) :
    w.canSubmit h₁ s₁ = w.canSubmit h₂ s₂ := by
  rw [canSubmit, canSubmit, WizardConfig.canSubmit_congr hg]

/-! ### Turns that agree -/

/-- What is seen of a call from outside the host. -/
def HostCall.seen {σ : Type} (c : HostCall σ) : Request × Busy × CallEnd :=
  (c.request, c.busy, c.ending)

/-- Two turns with different hosts agree, but for the states of these hosts and for the log. -/
structure Turn.Agrees {α : Type} (t₁ : Turn σ₁ α) (t₂ : Turn σ₂ α) : Prop where
  wizard : t₁.wizard = t₂.wizard
  outcome : t₁.outcome = t₂.outcome
  calls : t₁.calls.map HostCall.seen = t₂.calls.map HostCall.seen

/-- Where two turns make the same call, it ends the same way. -/
def Turn.EndAlike {α : Type} (t₁ : Turn σ₁ α) (t₂ : Turn σ₂ α) : Prop :=
  ∀ c₁ ∈ t₁.calls, ∀ c₂ ∈ t₂.calls, c₁.request = c₂.request → c₁.ending = c₂.ending

instance {α : Type} (t₁ : Turn σ₁ α) (t₂ : Turn σ₂ α) : Decidable (t₁.EndAlike t₂) :=
  inferInstanceAs (Decidable (∀ c₁ ∈ t₁.calls, ∀ c₂ ∈ t₂.calls,
    c₁.request = c₂.request → c₁.ending = c₂.ending))

theorem Turn.Agrees.map {α β : Type} {t₁ : Turn σ₁ α} {t₂ : Turn σ₂ α} (ht : t₁.Agrees t₂)
    (f : α → β) : (t₁.map f).Agrees (t₂.map f) where
  wizard := ht.wizard
  outcome := congrArg (Outcome.map f) ht.outcome
  calls := ht.calls

namespace Wizard

theorem runPreview_agrees
    (he : (w.previewAnswer h₁ s₁).ending = (w.previewAnswer h₂ s₂).ending) :
    (w.runPreview h₁ s₁).Agrees (w.runPreview h₂ s₂) := by
  have heq : (h₁.generate ⟨true, w.busy.submitting⟩ s₁).ending =
      (h₂.generate ⟨true, w.busy.submitting⟩ s₂).ending := he
  simp only [runPreview, heq]
  cases (h₂.generate ⟨true, w.busy.submitting⟩ s₂).ending with
  | returned | failed | dropped => exact ⟨rfl, rfl, rfl⟩

theorem advance_agrees (hg : h₁.signals w.config s₁ = h₂.signals w.config s₂)
    (he : (w.advance h₁ s₁).EndAlike (w.advance h₂ s₂)) :
    (w.advance h₁ s₁).Agrees (w.advance h₂ s₂) := by
  have hc := WizardConfig.check_congr hg w.step
  have hv := validate_congr hg w.step
  have hl := lacksPreview_congr hg
  cases hck : w.config.check w.step (h₂.draft s₂) (h₂.preview s₂) with
  | some p =>
    simp only [advance, hc, hck]
    exact ⟨hv, rfl, rfl⟩
  | none =>
    cases hn : w.step.next? with
    | none =>
      simp only [advance, hc, hck, hn]
      exact ⟨hv, rfl, rfl⟩
    | some next =>
      by_cases hs : w.step = .settings ∧ w.lacksPreview h₂ s₂ = true
      · have hend : (w.previewAnswer h₁ s₁).ending = (w.previewAnswer h₂ s₂).ending :=
          he _ (previewCall_mem_advance hs.1 (hl.trans hs.2)) _
            (previewCall_mem_advance hs.1 hs.2) rfl
        have ht : ((w.checked h₁ s₁).runPreview h₁ s₁).Agrees
            ((w.checked h₂ s₂).runPreview h₂ s₂) := by
          rw [show w.checked h₁ s₁ = w.checked h₂ s₂ from hv]
          exact runPreview_agrees hend
        simp only [advance, hc, hck, hn, hl, Bool.and_eq_true, decide_eq_true_eq, if_pos hs]
        rw [← checked, ← checked, ht.outcome]
        cases ((w.checked h₂ s₂).runPreview h₂ s₂).outcome with
        | done => exact ⟨congrArg (fun v => { v with step := next }) ht.wizard, rfl, ht.calls⟩
        | failed | dropped => exact ⟨ht.wizard, rfl, ht.calls⟩
      · simp only [advance, hc, hck, hn, hl, Bool.and_eq_true, decide_eq_true_eq, if_neg hs]
        exact ⟨congrArg (fun v => { v with step := next }) hv, rfl, rfl⟩

/-- Generating on demand checks again behind the call, so the signals must agree there too. -/
theorem generate_agrees (hg : h₁.signals w.config s₁ = h₂.signals w.config s₂)
    (hb : h₁.signals w.config (w.generate h₁ s₁).host =
      h₂.signals w.config (w.generate h₂ s₂).host)
    (he : (w.generate h₁ s₁).EndAlike (w.generate h₂ s₂)) :
    (w.generate h₁ s₁).Agrees (w.generate h₂ s₂) := by
  have hl := lacksPreview_congr hg
  by_cases hs : w.step = .preview ∧ w.lacksPreview h₂ s₂ = true
  · have hend : (w.previewAnswer h₁ s₁).ending = (w.previewAnswer h₂ s₂).ending :=
      he _ (previewCall_mem_generate hs.1 (hl.trans hs.2)) _
        (previewCall_mem_generate hs.1 hs.2) rfl
    have ht := runPreview_agrees hend
    simp only [generate, hl, Bool.and_eq_true, decide_eq_true_eq, if_pos hs] at hb ⊢
    rw [ht.outcome] at hb ⊢
    cases hout : (w.runPreview h₂ s₂).outcome with
    | done =>
      simp only [hout, runPreview_wizard] at hb ⊢
      exact ⟨validate_congr (w := w.asked) hb .preview, rfl, ht.calls⟩
    | failed | dropped => exact ht
  · simp only [generate, hl, Bool.and_eq_true, decide_eq_true_eq, if_neg hs]
    exact ⟨rfl, rfl, rfl⟩

theorem input_agrees {e : DraftEdit} (he : (w.input h₁ s₁ e).EndAlike (w.input h₂ s₂ e)) :
    (w.input h₁ s₁ e).Agrees (w.input h₂ s₂ e) := by
  have hi₁ := w.inputs h₁ s₁ e
  have hi₂ := w.inputs h₂ s₂ e
  generalize w.input h₁ s₁ e = t₁ at hi₁ he
  generalize w.input h₂ s₂ e = t₂ at hi₂ he
  cases hi₁ with
  | locked hed hk =>
    cases hi₂ with
    | locked => exact ⟨rfl, rfl, rfl⟩
    | accepted hf | rejected hf => exact absurd ⟨hed, hk⟩ hf
  | accepted hf =>
    cases hi₂ with
    | locked hed hk => exact absurd ⟨hed, hk⟩ hf
    | accepted => exact ⟨rfl, rfl, rfl⟩
    | rejected => cases he _ (List.mem_singleton_self _) _ (List.mem_singleton_self _) rfl
  | rejected hf =>
    cases hi₂ with
    | locked hed hk => exact absurd ⟨hed, hk⟩ hf
    | accepted => cases he _ (List.mem_singleton_self _) _ (List.mem_singleton_self _) rfl
    | rejected =>
      cases he _ (List.mem_singleton_self _) _ (List.mem_singleton_self _) rfl
      exact ⟨rfl, rfl, rfl⟩

theorem submit_agrees (hg : h₁.signals w.config s₁ = h₂.signals w.config s₂)
    (he : (w.submit h₁ s₁).EndAlike (w.submit h₂ s₂)) :
    (w.submit h₁ s₁).Agrees (w.submit h₂ s₂) := by
  have hs := canSubmit_congr hg
  by_cases hgate : w.canSubmit h₂ s₂ = true
  · have hend : (h₁.submit ⟨w.busy.generating, true⟩ s₁).ending =
        (h₂.submit ⟨w.busy.generating, true⟩ s₂).ending :=
      he _ (submitCall_mem (hs.trans hgate)) _ (submitCall_mem hgate) rfl
    simp only [submit, hs, hend]
    split
    · exact ⟨rfl, rfl, rfl⟩
    · split
      · exact ⟨rfl, rfl, rfl⟩
      · cases (h₂.submit ⟨w.busy.generating, true⟩ s₂).ending with
        | returned | failed | dropped => exact ⟨rfl, rfl, rfl⟩
  · rw [Bool.not_eq_true] at hgate
    simp only [submit, hs, hgate, Bool.not_false, if_true]
    split <;> exact ⟨rfl, rfl, rfl⟩

end Wizard

/-! ### Runs that agree -/

/-- The same action, or a check of the same step of drafts and previews with the same signals. -/
inductive Action.Alike (c : WizardConfig) : Action → Action → Prop
  | same (a : Action) : Alike c a a
  | validate (step : Step) {d₁ d₂ : Draft} {preview₁ preview₂ : Option String}
      (signals : c.signals d₁ preview₁ = c.signals d₂ preview₂) :
      Alike c (.validate step d₁ preview₁) (.validate step d₂ preview₂)

theorem Wizard.perform_agrees {a₁ a₂ : Action} (ha : a₁.Alike w.config a₂)
    (hg : h₁.signals w.config s₁ = h₂.signals w.config s₂)
    (hb : h₁.signals w.config (w.perform h₁ s₁ a₁).host =
      h₂.signals w.config (w.perform h₂ s₂ a₂).host)
    (he : (w.perform h₁ s₁ a₁).EndAlike (w.perform h₂ s₂ a₂)) :
    (w.perform h₁ s₁ a₁).Agrees (w.perform h₂ s₂ a₂) := by
  cases ha with
  | validate step hd =>
    refine ⟨validate_congr hd step, ?_, rfl⟩
    simp only [perform, Turn.quiet, WizardConfig.check_congr hd]
  | same =>
    cases a₁ with
    | start | retreat | jump | validate | cancel => exact ⟨rfl, rfl, rfl⟩
    | advance => exact (advance_agrees hg he).map _
    | input e => exact (input_agrees he).map _
    | pickKind t => exact (input_agrees he).map _
    | generate => exact (generate_agrees hg hb he).map _
    | submit => exact (submit_agrees hg he).map _

/-- What surrounds the page of a step. -/
structure Chrome where
  title : String
  step : Step
  messages : List (Step × String)
  markers : List StepMarker
  progress : String
  controls : Controls
deriving DecidableEq

/-- What a wizard shows around its page. -/
def Wizard.chrome {σ : Type} (w : Wizard) (h : Host σ) (s : σ) : Chrome where
  title := w.title
  step := w.step
  messages := w.messages.entries
  markers := w.markers
  progress := w.progress
  controls := w.snapshot.controls w.busy (h.draft s) (h.preview s)

theorem Wizard.chrome_congr {c : WizardConfig} (hc : w.config = c)
    (hg : h₁.signals c s₁ = h₂.signals c s₂) : w.chrome h₁ s₁ = w.chrome h₂ s₂ := by
  subst hc
  rw [chrome, chrome, Snapshot.controls_congr (v := w.snapshot) hg]

/-- Two events of different runs with the same action, before and behind which the hosts show the
same signals, and whose calls end alike. -/
structure Event.Alike (c : WizardConfig) (h₁ : Host σ₁) (h₂ : Host σ₂) (e₁ : Event σ₁)
    (e₂ : Event σ₂) : Prop where
  action : e₁.action.Alike c e₂.action
  found : h₁.signals c e₁.found = h₂.signals c e₂.found
  left : h₁.signals c (e₁.turn h₁).host = h₂.signals c (e₂.turn h₂).host
  endings : (e₁.turn h₁).EndAlike (e₂.turn h₂)

/-- Two events of different runs that nobody can tell apart: they begin and end with the same things
shown, the same calls are made, and the same is answered. -/
structure Event.Same (h₁ : Host σ₁) (h₂ : Host σ₂) (e₁ : Event σ₁) (e₂ : Event σ₂) : Prop where
  before : e₁.wizard.chrome h₁ e₁.found = e₂.wizard.chrome h₂ e₂.found
  outcome : (e₁.turn h₁).outcome = (e₂.turn h₂).outcome
  calls : (e₁.turn h₁).calls.map HostCall.seen = (e₂.turn h₂).calls.map HostCall.seen
  behind : (e₁.turn h₁).wizard.chrome h₁ (e₁.turn h₁).host =
    (e₂.turn h₂).wizard.chrome h₂ (e₂.turn h₂).host

/-- **Two runs with the same signals go the same way.** -/
theorem Run.agrees {start w₁ w₂ : Wizard} {past₁ : List (Event σ₁)} {past₂ : List (Event σ₂)}
    (r₁ : Run h₁ start past₁ w₁) (r₂ : Run h₂ start past₂ w₂)
    (ha : List.Forall₂ (Event.Alike start.config h₁ h₂) past₁ past₂) :
    w₁ = w₂ ∧ List.Forall₂ (Event.Same h₁ h₂) past₁ past₂ := by
  induction r₁ generalizing past₂ w₂ with
  | refl =>
    cases ha
    cases r₂
    exact ⟨rfl, .nil⟩
  | @tail past₁ w prior₁ s₁ a₁ ih =>
    cases r₂ with
    | refl => cases ha
    | @tail past₂ _ prior₂ s₂ a₂ =>
      obtain ⟨he, ha⟩ := List.forall₂_cons.1 ha
      obtain ⟨rfl, hsame⟩ := ih prior₂ ha
      rw [← prior₁.config_eq] at he
      have ht := Wizard.perform_agrees he.action he.found he.left he.endings
      refine ⟨ht.wizard, .cons ⟨Wizard.chrome_congr rfl he.found, ht.outcome, ht.calls, ?_⟩ hsame⟩
      show (w.perform h₁ s₁ a₁).wizard.chrome h₁ _ = (w.perform h₂ s₂ a₂).wizard.chrome h₂ _
      rw [ht.wizard]
      exact Wizard.chrome_congr (Wizard.perform_config _ _ _ _) he.left

/-- A tool that has nothing in common with that of `Rehearsal.fetch` but the signals. -/
def Rehearsal.query : Rehearsal :=
  { Rehearsal.start ⟨"Query", "Reads orders", some .databricks, .ofTexts (.ofList [("table", "t")]),
      "pass", true, []⟩ none [⟨0, none, some (some "select 1")⟩] [] with patience := 1 }

/-- Both tools get to the preview, and nobody can tell which is which on the way. -/
theorem Rehearsal.fetch_agrees_query : ∃ (past₁ past₂ : List (Event Rehearsal)) (w : Wizard),
    w.step = .preview ∧ Run Rehearsal.host (.new .standard false) past₁ w ∧
      Run Rehearsal.host (.new .standard false) past₂ w ∧
        List.Forall₂ (Event.Same Rehearsal.host Rehearsal.host) past₁ past₂ ∧
          past₁.map (·.found.draft.name) = ["Fetch", "Fetch", "Fetch"] ∧
            past₂.map (·.found.draft.name) = ["Query", "Query", "Query"] := by
  have r₁ := replay_run Rehearsal.host (.new .standard false) .fetch [.advance, .advance, .advance]
  have r₂ := replay_run Rehearsal.host (.new .standard false) .query [.advance, .advance, .advance]
  obtain ⟨hw, hsame⟩ := r₁.agrees r₂
    (.cons ⟨.same _, by decide, by decide, by decide⟩
      (.cons ⟨.same _, by decide, by decide, by decide⟩
        (.cons ⟨.same _, by decide, by decide, by decide⟩ .nil)))
  exact ⟨_, _, _, by decide, r₁, hw ▸ r₂, hsame, rfl, rfl⟩

end ToolAuthoring
