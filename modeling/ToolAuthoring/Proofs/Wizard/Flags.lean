import ToolAuthoring.Proofs.Wizard.Affordances

/-!
# Flags

The flags tell which call of the host is in flight, and they tell it to everyone who holds a
snapshot of the wizard, however old.  Between two actions both are clear, whatever the calls came
to; during a call the flag of that call is set and no other.

* `Request.flags`: the flags during a call; `Wizard.flags_of_mem_calls`: one action sets these.
* `Snapshot.next_of_generating`, `Snapshot.previewPanel_of_generating`,
  `Snapshot.submit_of_submitting`: what a snapshot shows then.
* `Run.flags_in_flight`: **the flags are set exactly while their calls are in flight**.
-/

namespace ToolAuthoring

variable {σ : Type}

/-! ### The flags of a call -/

/-- The flags that are set while a request is in flight.  Edits and the end of a session are not
waited for. -/
def Request.flags : Request → Busy
  | .generate => ⟨true, false⟩
  | .submit => ⟨false, true⟩
  | .change _ | .cancel => .idle

namespace Wizard

/-- If no call is in flight when an action begins, each of its calls has the flags of its
request. -/
theorem flags_of_mem_calls {w : Wizard} (hb : w.busy = .idle) {h : Host σ} {s : σ} {a : Action}
    {c : HostCall σ} (hc : c ∈ (w.perform h s a).calls) : c.busy = c.request.flags := by
  rw [perform_calls, Option.mem_toList] at hc
  cases a with
  | start | retreat | jump | validate => cases hc
  | advance | generate =>
    obtain ⟨-, rfl⟩ := previewCall?_eq_some.1 hc
    rw [previewCall, generating, hb]
    rfl
  | input | pickKind =>
    obtain ⟨-, rfl⟩ := changeCall?_eq_some.1 hc
    exact hb
  | submit =>
    obtain ⟨-, rfl⟩ := submitCall?_eq_some.1 hc
    rw [submitCall, submitting, hb]
    rfl
  | cancel =>
    cases hc
    exact hb

end Wizard

/-! ### What a snapshot shows during a call -/

namespace Snapshot

variable {v : Snapshot} {busy : Busy} {d : Draft} {preview : Option String}

theorem next_of_generating (hb : busy.generating = true) (hr : v.step ≠ .review) :
    (v.controls busy d preview).next = some ⟨"Next", false⟩ := by
  rw [controls, if_neg (by rwa [Step.isLast_iff]), hb]
  rfl

theorem previewPanel_of_generating (hb : busy.generating = true) {label : String} {enabled : Bool}
    (hp : v.previewPanel busy d preview = .pending label enabled) :
    label = "Generating..." ∧ enabled = false := by
  rw [previewPanel_eq] at hp
  generalize v.config.codeState d preview = state at hp
  cases state with
  | byHand | generated => cases hp
  | missing =>
    cases hp
    simp [hb]

theorem submit_of_submitting (hb : busy.submitting = true) (hr : v.step = .review) :
    (v.controls busy d preview).submit = some ⟨"Saving...", false⟩ := by
  simp [controls, Step.isLast_iff.2 hr, submitLabel, canSubmit, WizardConfig.canSubmit, hb]

end Snapshot

/-- What is seen from inside a call: the flag of the call is set and no other, and every snapshot
shows it, whatever the draft and the preview are.  While a preview is generated there is no going
on and no asking for another one, and while a draft is submitted there is no submitting it. -/
structure HostCall.Flagged (c : HostCall σ) : Prop where
  flags : c.busy = c.request.flags
  next : c.request = .generate → ∀ (v : Snapshot) (d : Draft) (preview : Option String),
    v.step ≠ .review → (v.controls c.busy d preview).next = some ⟨"Next", false⟩
  panel : c.request = .generate → ∀ (v : Snapshot) (d : Draft) (preview : Option String) label
    enabled, v.previewPanel c.busy d preview = .pending label enabled →
      label = "Generating..." ∧ enabled = false
  submit : c.request = .submit → ∀ (v : Snapshot) (d : Draft) (preview : Option String),
    v.step = .review → (v.controls c.busy d preview).submit = some ⟨"Saving...", false⟩

theorem HostCall.flagged_of_flags {c : HostCall σ} (hf : c.busy = c.request.flags) :
    c.Flagged where
  flags := hf
  next := fun hr _ _ _ => Snapshot.next_of_generating (by rw [hf, hr]; rfl)
  panel := fun hr _ _ _ _ _ => Snapshot.previewPanel_of_generating (by rw [hf, hr]; rfl)
  submit := fun hr _ _ _ => Snapshot.submit_of_submitting (by rw [hf, hr]; rfl)

/-! ### The flags throughout a run -/

/-- **The flags are set exactly while their calls are in flight.** -/
theorem Run.flags_in_flight {h : Host σ} {start w : Wizard} {past : List (Event σ)}
    (hs : Reachable start) (hr : Run h start past w) : w.busy = .idle ∧ ∀ e ∈ past,
      e.wizard.busy = .idle ∧ (e.turn h).wizard.busy = .idle ∧
        ((e.turn h).calls = [] → (e.turn h).host = e.found) ∧
          ∀ c ∈ (e.turn h).calls, c.AnsweredBy h (e.turn h).host ∧ c.Flagged := by
  refine ⟨(hr.reachable hs).idle, fun e he => ?_⟩
  obtain ⟨_, -, hprior⟩ := hr.exists_prior he
  have hidle := (hprior.reachable hs).idle
  refine ⟨hidle, Wizard.perform_idle hidle h e.found e.action,
    Wizard.perform_host_of_calls_eq_nil, fun c hc => ?_⟩
  exact ⟨Wizard.perform_answered hc,
    HostCall.flagged_of_flags (Wizard.flags_of_mem_calls hidle hc)⟩

/-- A rehearsal is asked for a preview on its way to the review and then to submit, and a snapshot
taken at the start shows that nobody can go on while the preview is generated. -/
theorem Rehearsal.fetch_flags : ∃ (past : List (Event Rehearsal)) (w : Wizard),
    Run Rehearsal.host (.new .standard false) past w ∧ w.busy = .idle ∧
      ∃ e ∈ past, ∃ c ∈ (e.turn Rehearsal.host).calls, c.request = .generate ∧
        ∀ d preview, ((Wizard.new .standard false).snapshot.controls c.busy d preview).next =
          some ⟨"Next", false⟩ := by
  have hr := replay_run Rehearsal.host (.new .standard false) .fetch
    [.submit, .advance, .advance, .advance, .advance]
  obtain ⟨hidle, hcalls⟩ := hr.flags_in_flight (.new .standard false)
  have hasked : ∃ e ∈ (replay Rehearsal.host (.new .standard false) .fetch
      [.submit, .advance, .advance, .advance, .advance]).1,
      ∃ c ∈ (e.turn Rehearsal.host).calls, c.request = .generate := by decide
  obtain ⟨e, he, c, hc, hreq⟩ := hasked
  exact ⟨_, _, hr, hidle, e, he, c, hc, hreq, fun d preview =>
    ((hcalls e he).2.2.2 c hc).2.next hreq _ d preview (by decide)⟩

end ToolAuthoring
