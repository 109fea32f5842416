import ToolAuthoring.Proofs.Wizard.Calls
import ToolAuthoring.Wizard.Page

/-!
# Recorded messages

A wizard keeps a message for each step whose last check failed.  Three actions check a step:
validating the step that it names, moving on the step where the wizard stands, and generating the
step of the preview, once the host has given one.  So the message of a step is found again in the
history of the session, as the outcome of the latest check of that step.

* `Event.checked?`: what an event checked a step on; `Wizard.perform_message`: one action.
* `Run.message_eq_latest`: **the message of a step is the outcome of its latest check in the
  session**.
* `Reachable.message?_eq`: a message is that of a problem which the step can have.
* `Wizard.refreshes`: moving on from the settings checks the settings and not the preview, so
  **a preview that has been generated clears the message of its step only if it was asked for on
  that step, or if there was no message**.
-/

namespace ToolAuthoring

variable {σ : Type}

/-! ### The latest check of a step -/

/-- The host was asked for a preview in this turn, and the call has returned. -/
def Turn.GivesPreview {α : Type} (t : Turn σ α) : Prop :=
  ∃ c ∈ t.calls, c.request = .generate ∧ c.ending = .returned

instance {α : Type} (t : Turn σ α) : Decidable t.GivesPreview :=
  inferInstanceAs (Decidable (∃ c ∈ t.calls, c.request = .generate ∧ c.ending = .returned))

/-- The draft and the preview on which an event checked a step, if it did. -/
def Event.checked? (e : Event σ) (h : Host σ) (step : Step) : Option (Draft × Option String) :=
  match e.action with
  | .validate named d preview => if step = named then some (d, preview) else none
  | .advance => if step = e.wizard.step then some (h.draft e.found, h.preview e.found) else none
  | .generate =>
    if step = .preview ∧ (e.turn h).GivesPreview then
      some (h.draft (e.turn h).host, h.preview (e.turn h).host)
    else none
  | _ => none

theorem Event.checked?_generate (w : Wizard) (h : Host σ) (s : σ) (step : Step) :
    (⟨w, s, .generate⟩ : Event σ).checked? h step =
      if step = .preview ∧ (w.perform h s .generate).GivesPreview then
        some (h.draft (w.perform h s .generate).host, h.preview (w.perform h s .generate).host)
      else none :=
  rfl

/-- The events since a session was begun the last time. -/
def thisSession (past : List (Event σ)) : List (Event σ) :=
  past.takeWhile fun e => e.action.opens?.isNone

/-- The draft and the preview on which a step was checked the last time in this session, if it was
checked at all. -/
def latestCheck (h : Host σ) (step : Step) (past : List (Event σ)) :
    Option (Draft × Option String) :=
  (thisSession past).findSome? fun e => e.checked? h step

theorem latestCheck_of_opens {h : Host σ} {step : Step} {e : Event σ} {past : List (Event σ)}
    {editing : Bool} (ha : e.action.opens? = some editing) :
    latestCheck h step (e :: past) = none := by
  rw [latestCheck, thisSession, List.takeWhile_cons, ha]
  rfl

theorem latestCheck_cons {h : Host σ} {step : Step} {e : Event σ} {past : List (Event σ)}
    (ha : e.action.opens? = none) :
    latestCheck h step (e :: past) = (e.checked? h step).or (latestCheck h step past) := by
  rw [latestCheck, thisSession, List.takeWhile_cons, ha, Option.isNone_none, if_pos rfl,
    List.findSome?_cons, latestCheck, thisSession]
  cases e.checked? h step <;> rfl

/-- The message that a check of a step gives. -/
def WizardConfig.message? (c : WizardConfig) (step : Step) (d : Draft) (preview : Option String) :
    Option String :=
  (c.check step d preview).map (·.message)

namespace Wizard

theorem validate_message (w : Wizard) (named step : Step) (d : Draft) (preview : Option String) :
    (w.validate named d preview).messages.get? step =
      if step = named then w.config.message? step d preview else w.messages.get? step := by
  show (if step = named then w.config.message? named d preview else _) = _
  split
  · rename_i hs
    rw [hs]
  · rfl

/-- Generating checks the step of the preview exactly if the host has given a preview. -/
theorem generate_message (w : Wizard) (h : Host σ) (s : σ) (step : Step) :
    (w.generate h s).wizard.messages.get? step =
      if step = .preview ∧ (w.generate h s).GivesPreview then
        w.config.message? step (h.draft (w.generate h s).host) (h.preview (w.generate h s).host)
      else w.messages.get? step := by
  have hg := w.generates h s
  generalize w.generate h s = t at hg
  cases hg with
  | unavailable => simp [Turn.GivesPreview]
  | failed _ _ he | dropped _ _ he => simp [Turn.GivesPreview, previewCall, he, asked]
  | generated hs _ he =>
    rw [checked, validate_message, show w.asked.step = .preview from hs]
    simp [Turn.GivesPreview, previewCall, he, asked]

/-- An action within a session gives a step the outcome of its check, if it checks that step, and
otherwise leaves the message of the step alone. -/
theorem perform_message {w : Wizard} {h : Host σ} {s : σ} {a : Action} (ha : a.opens? = none)
    (step : Step) : (w.perform h s a).wizard.messages.get? step =
      ((⟨w, s, a⟩ : Event σ).checked? h step).elim (w.messages.get? step)
        fun c => w.config.message? step c.1 c.2 := by
  cases a with
  | start editing => cases ha
  | advance =>
    rw [show (w.perform h s .advance).wizard.messages = (w.checked h s).messages from
      w.advance_messages h s, checked, validate_message, Event.checked?]
    by_cases hs : step = w.step <;> simp [hs]
  | validate named d preview =>
    show (w.validate named d preview).messages.get? step = _
    rw [validate_message, Event.checked?]
    by_cases hs : step = named <;> simp [hs]
  | generate =>
    show (w.generate h s).wizard.messages.get? step = _
    rw [generate_message, Event.checked?_generate]
    show _ = Option.elim (if step = .preview ∧ (w.generate h s).GivesPreview then _ else _) _ _
    split <;> rfl
  | retreat =>
    show w.retreat.messages.get? step = w.messages.get? step
    unfold retreat
    split <;> rfl
  | jump named =>
    show (w.jump named).messages.get? step = w.messages.get? step
    unfold jump
    split <;> rfl
  | input e => exact congrArg (·.messages.get? step) (w.input_wizard h s e)
  | pickKind t => exact congrArg (·.messages.get? step) (w.input_wizard h s (.pick t))
  | submit => exact congrArg (·.get? step) (w.submit_messages h s)
  | cancel => rfl

end Wizard

theorem Opens.messages_eq {editing : Bool} {w : Wizard} (ho : Opens editing w) :
    w.messages = .empty := by
  cases ho <;> rfl

/-- **The message of a step is the outcome of its latest check in the session.** -/
theorem Run.message_eq_latest {h : Host σ} {editing : Bool} {start w : Wizard}
    {past : List (Event σ)} (ho : Opens editing start) (hr : Run h start past w) (step : Step) :
    w.messages.get? step =
      (latestCheck h step past).bind fun c => start.config.message? step c.1 c.2 := by
  induction hr with
  | refl =>
    rw [ho.messages_eq]
    rfl
  | @tail past w prior s a ih =>
    cases ha : a.opens? with
    | some editing' =>
      rw [Wizard.perform_of_opens ha, latestCheck_of_opens ha]
      rfl
    | none =>
      rw [Wizard.perform_message ha, latestCheck_cons ha, prior.config_eq]
      cases (⟨w, s, a⟩ : Event σ).checked? h step with
      | some c => rfl
      | none => exact ih

/-- A tool for which a blank preview is written at first, and then one with code. -/
def Rehearsal.blankFirst : Rehearsal :=
  { Rehearsal.fetch with
    previews := [⟨0, none, some (some " ")⟩, ⟨0, none, some (some "def run(): pass")⟩] }

/-- The way back to the settings from a preview that is blank, the latest action first. -/
def wayBack : List Action := [.retreat, .advance, .advance, .advance, .advance]

/-- The message of the preview is still there when the wizard has gone back to the settings: it is
that of the check which found the preview blank. -/
theorem Rehearsal.blankFirst_message : ∃ (past : List (Event Rehearsal)) (w : Wizard),
    Run Rehearsal.host (.new .standard false) past w ∧ w.step = .settings ∧
      (latestCheck Rehearsal.host .preview past).map (·.2) = some (some " ") ∧
        w.messages.get? .preview = some StepProblem.previewMissing.message := by
  have hr := replay_run Rehearsal.host (.new .standard false) .blankFirst wayBack
  refine ⟨_, _, hr, by decide, by decide, ?_⟩
  rw [hr.message_eq_latest (.new .standard) .preview]
  decide

/-! ### What a new preview clears -/

/-- A message is that of a problem which the step can have. -/
theorem Reachable.message?_eq {w : Wizard} (hw : Reachable w) {step : Step} {m : String}
    (hm : w.messages.get? step = some m) :
    ∃ (c : WizardConfig) (d : Draft) (preview : Option String),
      c.message? step d preview = some m := by
  induction hw with
  | new config editing => cases hm
  | configured _ config ih => exact ih hm
  | @perform _ w _ h s a ih =>
    cases ha : a.opens? with
    | some editing =>
      rw [Wizard.perform_of_opens ha] at hm
      cases hm
    | none =>
      rw [Wizard.perform_message ha] at hm
      cases hc : (⟨w, s, a⟩ : Event _).checked? h step with
      | some c =>
        rw [hc] at hm
        exact ⟨w.config, c.1, c.2, hm⟩
      | none =>
        rw [hc] at hm
        exact ih hm

/-- The message of the preview is that none has been generated. -/
theorem Reachable.previewMessage_eq {w : Wizard} (hw : Reachable w)
    (hm : w.messages.get? .preview ≠ none) :
    w.messages.get? .preview = some StepProblem.previewMissing.message := by
  obtain ⟨m, hm⟩ := Option.ne_none_iff_exists'.1 hm
  obtain ⟨c, d, preview, hc⟩ := hw.message?_eq hm
  rw [hm, ← hc, WizardConfig.message?, WizardConfig.check]
  rw [WizardConfig.message?, WizardConfig.check] at hc
  split at hc
  · rename_i hp
    rw [if_pos hp]
    rfl
  · cases hc

/-- The page shows a preview that has been generated, and asks for one all the same. -/
def Page.Stale (p : Page) : Prop :=
  (∃ code, p.body = .preview (.generated code)) ∧
    p.message = some StepProblem.previewMissing.message

theorem Snapshot.previewPanel_eq_generated_iff {v : Snapshot} {busy : Busy} {d : Draft}
    {preview : Option String} (hp : hasPreview preview = true) :
    (∃ code, v.previewPanel busy d preview = .generated code) ↔
      v.config.requiresPreview d = true := by
  cases preview with
  | none => cases hp
  | some code => cases hs : v.config.isSelfAuthored d.kind <;>
      simp [previewPanel, WizardConfig.requiresPreview, hs, hp]

namespace Wizard

/-- The page of a wizard and its host. -/
def pageOf (w : Wizard) (h : Host σ) (s : σ) (registry : FormRegistry) : Page :=
  w.page (h.draft s) (h.preview s) registry

theorem pageOf_stale_iff {w : Wizard} {h : Host σ} {s : σ} {registry : FormRegistry}
    (hs : w.step = .preview) (hp : hasPreview (h.preview s) = true) :
    (w.pageOf h s registry).Stale ↔ w.config.requiresPreview (h.draft s) = true ∧
      w.messages.get? .preview = some StepProblem.previewMissing.message := by
  have hpanel : (∃ code, w.snapshot.previewPanel w.busy (h.draft s) (h.preview s) =
      .generated code) ↔ w.config.requiresPreview (h.draft s) = true :=
    Snapshot.previewPanel_eq_generated_iff hp
  rw [← hpanel]
  simp [Page.Stale, pageOf, page, body, hs]

/-- The ways to get a preview: the wizard then stands at the preview, and has checked that step only
if the preview was asked for there. -/
theorem step_of_givesPreview {w : Wizard} {h : Host σ} {s : σ} {a : Action}
    (hg : (w.perform h s a).GivesPreview) :
    (w.perform h s a).wizard.step = .preview ∧
      (a = .advance ∧ w.step = .settings ∨ a = .generate ∧ w.step = .preview) := by
  obtain ⟨c, hc, hr, he⟩ := hg
  have hreq : .generate ∈ (w.perform h s a).requests := List.mem_map.2 ⟨c, hc, hr⟩
  obtain ⟨⟨rfl, hs⟩ | ⟨rfl, hs⟩, -⟩ := generate_mem_requests.1 hreq
  · refine ⟨?_, .inl ⟨rfl, hs⟩⟩
    show (w.advance h s).wizard.step = .preview
    have ha := w.advances h s
    rw [perform, Turn.map_calls] at hc
    generalize w.advance h s = t at ha hc
    cases ha with
    | refused | stayed | moved => cases hc
    | generated => rfl
    | failed _ _ hf | dropped _ _ hf =>
      cases List.mem_singleton.1 hc
      rw [previewCall, hf] at he
      cases he
  · exact ⟨(w.generate_step h s).trans hs, .inr ⟨rfl, hs⟩⟩

/-- What becomes of the message of the preview when the host has given one: it is cleared if the
preview was asked for at its own step, and stays as it was if it was asked for on the way there.
The page of the preview is then stale exactly if there was a message before. -/
structure Refreshes (w : Wizard) (h : Host σ) (a : Action) (t : Turn σ Reply) : Prop where
  here : t.wizard.step = .preview
  asked : a = .advance ∨ a = .generate
  cleared : t.wizard.messages.get? .preview = none ↔
    a = .generate ∨ w.messages.get? .preview = none
  page : ∀ registry, (t.wizard.pageOf h t.host registry).Stale ↔
    a = .advance ∧ w.messages.get? .preview ≠ none ∧
      w.config.requiresPreview (h.draft t.host) = true

theorem perform_message_of_generate {w : Wizard} {h : Host σ} {s : σ}
    (hg : (w.perform h s .generate).GivesPreview)
    (hp : hasPreview (h.preview (w.perform h s .generate).host) = true) :
    (w.perform h s .generate).wizard.messages.get? .preview = none := by
  rw [perform_message rfl, Event.checked?_generate, if_pos ⟨rfl, hg⟩, Option.elim_some,
    WizardConfig.message?, WizardConfig.check, hp, Bool.not_true, Bool.and_false]
  rfl

theorem perform_message_of_advance {w : Wizard} {h : Host σ} {s : σ} (hs : w.step = .settings) :
    (w.perform h s .advance).wizard.messages.get? .preview = w.messages.get? .preview := by
  rw [perform_message rfl, Event.checked?, hs]
  rfl

/-- **A new preview clears its message only where it was asked for at its own step, or where there
was no message.** -/
theorem refreshes {w : Wizard} (hw : Reachable w) {h : Host σ} {s : σ} {a : Action}
    (hg : (w.perform h s a).GivesPreview)
    (hp : hasPreview (h.preview (w.perform h s a).host) = true) :
    w.Refreshes h a (w.perform h s a) := by
  obtain ⟨hstep, ⟨rfl, hs⟩ | ⟨rfl, hs⟩⟩ := step_of_givesPreview hg
  · have hm := perform_message_of_advance (h := h) (s := s) hs
    refine ⟨hstep, .inl rfl, by simp [hm], fun registry => ?_⟩
    rw [pageOf_stale_iff hstep hp, hm, perform_config]
    constructor
    · rintro ⟨hq, hsome⟩
      exact ⟨rfl, by rw [hsome]; nofun, hq⟩
    · rintro ⟨-, hne, hq⟩
      exact ⟨hq, hw.previewMessage_eq hne⟩
  · have hm := perform_message_of_generate hg hp
    refine ⟨hstep, .inr rfl, by simp [hm], fun registry => ?_⟩
    rw [pageOf_stale_iff hstep hp, hm]
    simp

/-- At a preview that was found blank a new one is generated, and its message is cleared. -/
theorem refreshes_blankFirst : ∃ (w : Wizard) (r : Rehearsal), Reachable w ∧
    w.messages.get? .preview ≠ none ∧ (w.perform Rehearsal.host r .generate).GivesPreview ∧
      (w.perform Rehearsal.host r .generate).wizard.messages.get? .preview = none := by
  let start : Wizard := .new .standard false
  let w : Wizard := (replay Rehearsal.host start .blankFirst wayBack.tail).2.1
  let r : Rehearsal := (replay Rehearsal.host start .blankFirst wayBack.tail).2.2
  have hw : Reachable w := (replay_run ..).reachable (.new .standard false)
  have hg : (w.perform Rehearsal.host r .generate).GivesPreview := by decide
  exact ⟨w, r, hw, by decide, hg, (refreshes hw hg (by decide)).cleared.2 (.inl rfl)⟩

/-- On the way back to it the new preview is generated too, and its page still asks for one. -/
theorem stale_blankFirst : ∃ (w : Wizard) (r : Rehearsal), Reachable w ∧
    (w.perform Rehearsal.host r .advance).GivesPreview ∧
      hasPreview (Rehearsal.host.preview (w.perform Rehearsal.host r .advance).host) = true ∧
        (w.perform Rehearsal.host r .advance).wizard.messages.get? .preview ≠ none ∧
          ((w.perform Rehearsal.host r .advance).wizard.pageOf Rehearsal.host
            (w.perform Rehearsal.host r .advance).host .builtin).Stale :=
  ⟨(replay Rehearsal.host (.new .standard false) .blankFirst wayBack).2.1,
    (replay Rehearsal.host (.new .standard false) .blankFirst wayBack).2.2,
    (replay_run ..).reachable (.new .standard false), by decide, by decide, by decide,
    ⟨"def run(): pass", by decide⟩, by decide⟩

end Wizard

end ToolAuthoring
