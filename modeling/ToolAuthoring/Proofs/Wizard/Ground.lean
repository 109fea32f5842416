import ToolAuthoring.Proofs.Wizard.Runs

/-!
# New ground

A wizard gets to a later step only by moving on from a valid one.  Going back and jumping lose
ground and never win any, so of whatever lies between the start of a session and the current step,
every step has been passed in this session.

* `Event.Passes`: a move out of a valid step, with a generated preview where one was needed.
* `passes_of_lt`: one action that wins ground passes the step at which it began.
* `Session.passed_below`: **every step below the current one has been passed**.
-/

namespace ToolAuthoring

variable {σ : Type}

/-- The wizard stood at `step`, moved on from it, and was allowed to: the step was valid for the
draft and the preview of that moment, and if a preview was needed and missing behind the settings,
the host was asked for one and gave it. -/
structure Event.Passes (e : Event σ) (h : Host σ) (step : Step) : Prop where
  action : e.action = .advance
  here : e.wizard.step = step
  outcome : ∃ next, (e.turn h).outcome = .done (.step next)
  valid : e.wizard.config.check step (h.draft e.found) (h.preview e.found) = none
  preview : step = .settings → e.wizard.config.requiresPreview (h.draft e.found) = true →
    hasPreview (h.preview e.found) = false →
      ∃ c ∈ (e.turn h).calls, c.request = .generate ∧ c.ending = .returned

theorem advance_passes {w : Wizard} {h : Host σ} {s : σ}
    (hlt : w.step.index < (w.advance h s).wizard.step.index) :
    (⟨w, s, .advance⟩ : Event σ).Passes h w.step ∧
      (w.advance h s).wizard.step.index = w.step.index + 1 := by
  have hturn : (⟨w, s, .advance⟩ : Event σ).turn h = (w.advance h s).map .step := rfl
  have ha := w.advances h s
  generalize w.advance h s = t at ha hlt hturn
  cases ha with
  | refused | stayed | failed | dropped => exact absurd hlt (Nat.lt_irrefl _)
  | @moved next _ hc hn hl =>
    refine ⟨⟨rfl, rfl, ⟨next, by rw [hturn]; rfl⟩, hc, fun hs hreq hno => ?_⟩,
      Step.next?_eq_some hn⟩
    have hlacks : w.lacksPreview h s = true := by
      rw [Wizard.lacksPreview, hreq, hno]
      rfl
    exact absurd ⟨hs, hlacks⟩ hl
  | generated hs hl he =>
    have hcall : w.previewCall h s ∈ ((⟨w, s, .advance⟩ : Event σ).turn h).calls := by
      rw [hturn]
      exact List.mem_singleton_self _
    refine ⟨⟨rfl, rfl, ⟨.preview, by rw [hturn]; rfl⟩, by rw [hs]; rfl, fun _ _ _ => ?_⟩,
      by rw [hs]; rfl⟩
    exact ⟨_, hcall, rfl, he⟩

/-- Within a session, only moving on wins ground, and it wins one step. -/
theorem passes_of_lt {w : Wizard} {h : Host σ} {s : σ} {a : Action} (ha : a.opens? = none)
    (hlt : w.step.index < (w.perform h s a).wizard.step.index) :
    (⟨w, s, a⟩ : Event σ).Passes h w.step ∧
      (w.perform h s a).wizard.step.index = w.step.index + 1 := by
  cases a with
  | start editing => cases ha
  | advance => exact advance_passes hlt
  | retreat => exact absurd hlt (Nat.not_lt.2 w.retreat_index_le)
  | jump step => exact absurd hlt (Nat.not_lt.2 (w.jump_index_le step))
  | validate | cancel => exact absurd hlt (Nat.lt_irrefl _)
  | input e =>
    simp only [Wizard.perform, Turn.map_wizard, Wizard.input_wizard] at hlt
    exact absurd hlt (Nat.lt_irrefl _)
  | pickKind t =>
    simp only [Wizard.perform, Wizard.pickKind, Turn.map_wizard, Wizard.input_wizard] at hlt
    exact absurd hlt (Nat.lt_irrefl _)
  | generate =>
    simp only [Wizard.perform, Turn.map_wizard, Wizard.generate_step] at hlt
    exact absurd hlt (Nat.lt_irrefl _)
  | submit =>
    simp only [Wizard.perform, Turn.map_wizard, Wizard.submit_step] at hlt
    exact absurd hlt (Nat.lt_irrefl _)

/-- **Every step below the current one has been passed in this session.** -/
theorem Session.passed_below {h : Host σ} {editing : Bool} {start w : Wizard}
    {past : List (Event σ)} (hs : Session h editing start past w) (step : Step)
    (hlo : (Wizard.startStep editing).index ≤ step.index) (hhi : step.index < w.step.index) :
    ∃ e ∈ past, e.Passes h step := by
  obtain ⟨ho, hr, hin⟩ := hs
  induction hr with
  | refl =>
    rw [ho.step_eq] at hhi
    omega
  | @tail past w prior s a ih =>
    have ha : a.opens? = none := hin _ List.mem_cons_self
    by_cases hold : step.index < w.step.index
    · obtain ⟨e, he, hp⟩ := ih hold fun e he => hin e (List.mem_cons_of_mem _ he)
      exact ⟨e, List.mem_cons_of_mem _ he, hp⟩
    · -- the step is won by this very action, which can only be a move out of it
      have hlt : w.step.index < (w.perform h s a).wizard.step.index := by omega
      obtain ⟨hp, hi⟩ := passes_of_lt ha hlt
      obtain rfl : w.step = step := Step.index_injective (by omega)
      exact ⟨_, List.mem_cons_self, hp⟩

/-- A rehearsal gets from a new session to the preview, and has left the settings with a preview. -/
theorem Rehearsal.fetch_passed_settings : ∃ (past : List (Event Rehearsal)) (w : Wizard),
    Session Rehearsal.host false (.new .standard false) past w ∧ w.step = .preview ∧
      ∃ e ∈ past, e.Passes Rehearsal.host .settings := by
  have hs := Session.mk (.new .standard) (replay_run Rehearsal.host (.new .standard false) .fetch
    [.advance, .advance, .advance]) (by decide)
  exact ⟨_, _, hs, by decide, hs.passed_below .settings (by decide) (by decide)⟩

end ToolAuthoring
