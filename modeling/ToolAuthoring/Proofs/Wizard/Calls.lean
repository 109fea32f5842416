import ToolAuthoring.Proofs.Wizard.Runs

/-!
# The calls of an action

An action calls its host at most once, and `Wizard.call?` says how.  From this follow the gates of
the four kinds of calls, each as one condition on step, draft and preview.

* `perform_calls`: an action makes the call of `Wizard.call?` and no other.
* `HostCall.AnsweredBy`: the host has answered a call under the flags that are recorded with it.
* `Turn.Accounts`, `perform_accounts`: what has become of the host comes of the calls that are
  listed, so that `perform_host_of_calls_eq_nil`: without a call it stays as it was found.
* `generate_mem_requests`, `submit_mem_requests`, `change_mem_requests`, `cancel_mem_requests`: the
  gates.
* `Wizard.perform_gated`: **an action calls its host exactly as its gates allow, and one that fails
  leaves the wizard where it stood**.
-/

namespace ToolAuthoring

variable {σ : Type}

/-- What a turn asked of its host. -/
def Turn.requests {α : Type} (t : Turn σ α) : List Request :=
  t.calls.map (·.request)

/-- The host has answered a call under the flags that are recorded with it: its answer to these
tells how the call ended and what has become of the host. -/
def HostCall.AnsweredBy (c : HostCall σ) (h : Host σ) (after : σ) : Prop :=
  match c.request with
  | .change e => after = (h.change c.busy e c.before).1 ∧
      (c.ending = .returned ↔ (h.change c.busy e c.before).2 = .ok ())
  | .generate => after = (h.generate c.busy c.before).state ∧
      c.ending = (h.generate c.busy c.before).ending
  | .submit => after = (h.submit c.busy c.before).state ∧
      c.ending = (h.submit c.busy c.before).ending
  | .cancel => after = h.cancel c.busy c.before ∧ c.ending = .returned

/-- A turn accounts for what has become of the host that it has found: it lists no call and the host
is as it was, or it lists one call, to which the host has answered. -/
inductive Turn.Accounts {α : Type} (t : Turn σ α) (h : Host σ) (s : σ) : Prop
  | silent (none : t.calls = []) (same : t.host = s)
  | called {c : HostCall σ} (one : t.calls = [c]) (answered : c.AnsweredBy h t.host)

theorem Turn.Accounts.map {α β : Type} {t : Turn σ α} {h : Host σ} {s : σ} (f : α → β)
    (ht : t.Accounts h s) : (t.map f).Accounts h s := by
  cases ht with
  | silent none same => exact .silent none same
  | called one answered => exact .called one answered

namespace Wizard

/-! ### One call at most -/

/-- The call that hands on an edit. -/
def changeCall (w : Wizard) (h : Host σ) (s : σ) (e : DraftEdit) : HostCall σ :=
  ⟨.change e, w.busy, s,
    match (h.change w.busy e s).2 with
    | .ok _ => .returned
    | .error m => .failed m⟩

/-- The call that hands on an edit, unless the kind is locked. -/
def changeCall? (w : Wizard) (h : Host σ) (s : σ) (e : DraftEdit) : Option (HostCall σ) :=
  if w.editing = true ∧ e.field = .kind then none else some (w.changeCall h s e)

/-- The call for a preview, if the wizard stands at `step` and the preview is needed and missing. -/
def previewCall? (w : Wizard) (h : Host σ) (s : σ) (step : Step) : Option (HostCall σ) :=
  if w.step = step ∧ w.lacksPreview h s = true then some (w.previewCall h s) else none

/-- The call that submits, if that is allowed. -/
def submitCall? (w : Wizard) (h : Host σ) (s : σ) : Option (HostCall σ) :=
  if w.canSubmit h s = true then some (w.submitCall h s) else none

/-- The call that an action makes, if it makes one. -/
def call? (w : Wizard) (h : Host σ) (s : σ) : Action → Option (HostCall σ)
  | .advance => w.previewCall? h s .settings
  | .generate => w.previewCall? h s .preview
  | .input e => w.changeCall? h s e
  | .pickKind t => w.changeCall? h s (.pick t)
  | .submit => w.submitCall? h s
  | .cancel => some ⟨.cancel, w.busy, s, .returned⟩
  | .start _ | .retreat | .jump _ | .validate .. => none

theorem advance_calls (w : Wizard) (h : Host σ) (s : σ) :
    (w.advance h s).calls = (w.previewCall? h s .settings).toList := by
  have ha := w.advances h s
  generalize w.advance h s = t at ha
  unfold previewCall?
  cases ha with
  | refused hc =>
    rw [if_neg]
    · rfl
    · rintro ⟨hs, -⟩
      rw [hs] at hc
      cases hc
  | stayed hs => simp [hs]
  | moved _ _ hl => rw [if_neg hl]; rfl
  | generated hs hl _ => rw [if_pos ⟨hs, hl⟩]; rfl
  | failed hs hl _ => rw [if_pos ⟨hs, hl⟩]; rfl
  | dropped hs hl _ => rw [if_pos ⟨hs, hl⟩]; rfl

theorem generate_calls (w : Wizard) (h : Host σ) (s : σ) :
    (w.generate h s).calls = (w.previewCall? h s .preview).toList := by
  have hg := w.generates h s
  generalize w.generate h s = t at hg
  unfold previewCall?
  cases hg with
  | unavailable hl => rw [if_neg hl]; rfl
  | generated hs hl _ => rw [if_pos ⟨hs, hl⟩]; rfl
  | failed hs hl _ => rw [if_pos ⟨hs, hl⟩]; rfl
  | dropped hs hl _ => rw [if_pos ⟨hs, hl⟩]; rfl

theorem input_calls (w : Wizard) (h : Host σ) (s : σ) (e : DraftEdit) :
    (w.input h s e).calls = (w.changeCall? h s e).toList := by
  have hi := w.inputs h s e
  generalize w.input h s e = t at hi
  unfold changeCall?
  cases hi with
  | locked he hf => rw [if_pos ⟨he, hf⟩]; rfl
  | accepted hl he => rw [if_neg hl, changeCall, he]; rfl
  | rejected hl he => rw [if_neg hl, changeCall, he]; rfl

theorem submit_calls (w : Wizard) (h : Host σ) (s : σ) :
    (w.submit h s).calls = (w.submitCall? h s).toList := by
  have hs := w.submits h s
  generalize w.submit h s = t at hs
  unfold submitCall?
  cases hs with
  | elsewhere hr =>
    rw [if_neg fun hg => hr (canSubmit_iff.1 hg).1]
    rfl
  | disabled _ hg => simp [hg]
  | submitted hg _ => rw [if_pos hg]; rfl
  | failed hg _ => rw [if_pos hg]; rfl
  | dropped hg _ => rw [if_pos hg]; rfl

theorem previewCall_mem_advance {w : Wizard} {h : Host σ} {s : σ} (hs : w.step = .settings)
    (hl : w.lacksPreview h s = true) : w.previewCall h s ∈ (w.advance h s).calls := by
  rw [advance_calls, previewCall?, if_pos ⟨hs, hl⟩]
  exact List.mem_singleton_self _

theorem previewCall_mem_generate {w : Wizard} {h : Host σ} {s : σ} (hs : w.step = .preview)
    (hl : w.lacksPreview h s = true) : w.previewCall h s ∈ (w.generate h s).calls := by
  rw [generate_calls, previewCall?, if_pos ⟨hs, hl⟩]
  exact List.mem_singleton_self _

theorem submitCall_mem {w : Wizard} {h : Host σ} {s : σ} (hg : w.canSubmit h s = true) :
    w.submitCall h s ∈ (w.submit h s).calls := by
  rw [submit_calls, submitCall?, if_pos hg]
  exact List.mem_singleton_self _

theorem perform_calls (w : Wizard) (h : Host σ) (s : σ) (a : Action) :
    (w.perform h s a).calls = (w.call? h s a).toList := by
  cases a with
  | start | retreat | jump | validate | cancel => rfl
  | advance => exact w.advance_calls h s
  | input e => exact w.input_calls h s e
  | pickKind t => exact w.input_calls h s (.pick t)
  | generate => exact w.generate_calls h s
  | submit => exact w.submit_calls h s

theorem requests_length_le (w : Wizard) (h : Host σ) (s : σ) (a : Action) :
    (w.perform h s a).requests.length ≤ 1 := by
  rw [Turn.requests, List.length_map, perform_calls]
  cases w.call? h s a <;> simp

/-! ### What becomes of the host -/

theorem advance_accounts (w : Wizard) (h : Host σ) (s : σ) : (w.advance h s).Accounts h s := by
  have ha := w.advances h s
  generalize w.advance h s = t at ha
  cases ha with
  | refused | stayed | moved => exact .silent rfl rfl
  | generated | failed | dropped => exact .called rfl ⟨rfl, rfl⟩

theorem generate_accounts (w : Wizard) (h : Host σ) (s : σ) : (w.generate h s).Accounts h s := by
  have hg := w.generates h s
  generalize w.generate h s = t at hg
  cases hg with
  | unavailable => exact .silent rfl rfl
  | generated | failed | dropped => exact .called rfl ⟨rfl, rfl⟩

theorem submit_accounts (w : Wizard) (h : Host σ) (s : σ) : (w.submit h s).Accounts h s := by
  have hs := w.submits h s
  generalize w.submit h s = t at hs
  cases hs with
  | elsewhere | disabled => exact .silent rfl rfl
  | submitted | failed | dropped => exact .called rfl ⟨rfl, rfl⟩

theorem input_accounts (w : Wizard) (h : Host σ) (s : σ) (e : DraftEdit) :
    (w.input h s e).Accounts h s := by
  have hi := w.inputs h s e
  generalize w.input h s e = t at hi
  cases hi with
  | locked => exact .silent rfl rfl
  | accepted _ he | rejected _ he => exact .called rfl ⟨rfl, by simp [he]⟩

theorem perform_accounts (w : Wizard) (h : Host σ) (s : σ) (a : Action) :
    (w.perform h s a).Accounts h s := by
  cases a with
  | start | retreat | jump | validate => exact .silent rfl rfl
  | advance => exact (w.advance_accounts h s).map Reply.step
  | input e => exact (w.input_accounts h s e).map fun _ => Reply.nothing
  | pickKind t => exact (w.input_accounts h s (.pick t)).map fun _ => Reply.nothing
  | generate => exact (w.generate_accounts h s).map fun _ => Reply.nothing
  | submit => exact (w.submit_accounts h s).map fun _ => Reply.nothing
  | cancel => exact .called rfl ⟨rfl, rfl⟩

/-- An action that makes no call leaves the host as it has found it. -/
theorem perform_host_of_calls_eq_nil {w : Wizard} {h : Host σ} {s : σ} {a : Action}
    (hc : (w.perform h s a).calls = []) : (w.perform h s a).host = s := by
  cases w.perform_accounts h s a with
  | silent _ same => exact same
  | called one =>
    rw [hc] at one
    cases one

/-- The host is what the call of an action has made of it. -/
theorem perform_answered {w : Wizard} {h : Host σ} {s : σ} {a : Action} {c : HostCall σ}
    (hc : c ∈ (w.perform h s a).calls) : c.AnsweredBy h (w.perform h s a).host := by
  cases w.perform_accounts h s a with
  | silent none =>
    rw [none] at hc
    cases hc
  | called one answered =>
    rw [one, List.mem_singleton] at hc
    rw [hc]
    exact answered

/-! ### The gates -/

theorem previewCall?_eq_some {w : Wizard} {h : Host σ} {s : σ} {step : Step} {c : HostCall σ} :
    w.previewCall? h s step = some c ↔
      (w.step = step ∧ w.lacksPreview h s = true) ∧ w.previewCall h s = c := by
  rw [previewCall?, Option.ite_none_right_eq_some, Option.some.injEq]

theorem changeCall?_eq_some {w : Wizard} {h : Host σ} {s : σ} {e : DraftEdit} {c : HostCall σ} :
    w.changeCall? h s e = some c ↔
      ¬ (w.editing = true ∧ e.field = .kind) ∧ w.changeCall h s e = c := by
  rw [changeCall?, Option.ite_none_left_eq_some, Option.some.injEq]

theorem submitCall?_eq_some {w : Wizard} {h : Host σ} {s : σ} {c : HostCall σ} :
    w.submitCall? h s = some c ↔ w.canSubmit h s = true ∧ w.submitCall h s = c := by
  rw [submitCall?, Option.ite_none_right_eq_some, Option.some.injEq]

theorem before_of_mem_calls {w : Wizard} {h : Host σ} {s : σ} {a : Action} {c : HostCall σ}
    (hc : c ∈ (w.perform h s a).calls) : c.before = s := by
  rw [perform_calls, Option.mem_toList] at hc
  cases a with
  | start | retreat | jump | validate => cases hc
  | advance | generate =>
    obtain ⟨-, rfl⟩ := previewCall?_eq_some.1 hc
    rfl
  | input | pickKind =>
    obtain ⟨-, rfl⟩ := changeCall?_eq_some.1 hc
    rfl
  | submit =>
    obtain ⟨-, rfl⟩ := submitCall?_eq_some.1 hc
    rfl
  | cancel =>
    cases hc
    rfl

theorem mem_requests {w : Wizard} {h : Host σ} {s : σ} {a : Action} {r : Request} :
    r ∈ (w.perform h s a).requests ↔ ∃ c ∈ w.call? h s a, c.request = r := by
  simp [Turn.requests, perform_calls]

theorem generate_mem_requests {w : Wizard} {h : Host σ} {s : σ} {a : Action} :
    .generate ∈ (w.perform h s a).requests ↔
      (a = .advance ∧ w.step = .settings ∨ a = .generate ∧ w.step = .preview) ∧
        w.lacksPreview h s = true := by
  rw [mem_requests]
  cases a <;> simp [call?, previewCall?_eq_some, changeCall?_eq_some, submitCall?_eq_some,
    previewCall, changeCall, submitCall]

theorem submit_mem_requests {w : Wizard} {h : Host σ} {s : σ} {a : Action} :
    .submit ∈ (w.perform h s a).requests ↔ a = .submit ∧ w.canSubmit h s = true := by
  rw [mem_requests]
  cases a <;> simp [call?, previewCall?_eq_some, changeCall?_eq_some, submitCall?_eq_some,
    previewCall, changeCall, submitCall]

theorem change_mem_requests {w : Wizard} {h : Host σ} {s : σ} {a : Action} {e : DraftEdit} :
    .change e ∈ (w.perform h s a).requests ↔
      a.edit? = some e ∧ ¬ (w.editing = true ∧ e.field = .kind) := by
  have hcall (e' : DraftEdit) : (∃ c ∈ w.changeCall? h s e', c.request = .change e) ↔
      some e' = some e ∧ ¬ (w.editing = true ∧ e.field = .kind) := by
    constructor
    · rintro ⟨c, hc, hr⟩
      obtain ⟨hl, rfl⟩ := changeCall?_eq_some.1 hc
      cases hr
      exact ⟨rfl, hl⟩
    · rintro ⟨he, hl⟩
      cases he
      exact ⟨_, changeCall?_eq_some.2 ⟨hl, rfl⟩, rfl⟩
  rw [mem_requests]
  cases a with
  | input e' => exact hcall e'
  | pickKind t => exact hcall (.pick t)
  | _ => simp [call?, previewCall?_eq_some, submitCall?_eq_some, previewCall, submitCall,
      Action.edit?]

theorem cancel_mem_requests {w : Wizard} {h : Host σ} {s : σ} {a : Action} :
    .cancel ∈ (w.perform h s a).requests ↔ a = .cancel := by
  rw [mem_requests]
  cases a <;> simp [call?, previewCall?_eq_some, changeCall?_eq_some, submitCall?_eq_some,
    previewCall, changeCall, submitCall]

/-! ### Gated calls, failures without a trace -/

/-- The calls of a turn are those behind an open gate: a preview is asked for out of the settings
and on demand, where one is needed and missing; a draft is submitted from the review, if that is not
under way and a preview is not missing; every edit is handed on as it is, but for the kind of an
existing tool; and only cancelling cancels. There are no others: what becomes of the host is its
answer to the call that is listed, and without one it stays as it was found. -/
structure Gated (w : Wizard) (h : Host σ) (s : σ) (a : Action) (t : Turn σ Reply) : Prop where
  once : ∀ r, t.requests.count r ≤ 1
  generate : .generate ∈ t.requests ↔
    (a = .advance ∧ w.step = .settings ∨ a = .generate ∧ w.step = .preview) ∧
      (h.draft s).kind ≠ some w.config.selfAuthored ∧
        ∀ code ∈ h.preview s, isBlank code = true
  submit : .submit ∈ t.requests ↔ a = .submit ∧ w.step = .review ∧ w.busy.submitting = false ∧
    ((h.draft s).kind = some w.config.selfAuthored ∨ ∃ code ∈ h.preview s, isBlank code = false)
  change : ∀ e, .change e ∈ t.requests ↔
    a.edit? = some e ∧ ¬ (w.editing = true ∧ e.field = .kind)
  cancel : .cancel ∈ t.requests ↔ a = .cancel
  answered : ∀ c ∈ t.calls, c.AnsweredBy h t.host
  silent : t.calls = [] → t.host = s

/-- Only moves that succeed change the step, and what fails leaves everything as it was, but for the
message of the step that moving on has checked. -/
structure Atomic (w : Wizard) (h : Host σ) (s : σ) (a : Action) (t : Turn σ Reply) : Prop where
  advance : a = .advance → ∀ r, t.outcome = .done r → r = .step t.wizard.step ∧
    (w.step.next? = some t.wizard.step ∨ w.step = .review ∧ t.wizard.step = .review)
  step : t.wizard.step ≠ w.step → (∃ r, t.outcome = .done r) ∧
    (a = .advance ∨ a = .retreat ∨ (∃ j, a = .jump j ∧ t.outcome = .done (.success true)) ∨
      ∃ editing, a = .start editing)
  failed : ∀ e, t.outcome = .failed e → t.wizard.step = w.step ∧ t.wizard.editing = w.editing ∧
    t.wizard.config = w.config ∧ t.wizard.busy = w.busy
  messages : ∀ e, t.outcome = .failed e → ∀ j, t.wizard.messages.get? j ≠ w.messages.get? j →
    a = .advance ∧ j = w.step ∧ t.wizard.messages.get? j =
      (w.config.check w.step (h.draft s) (h.preview s)).map (·.message)

theorem gated (w : Wizard) (h : Host σ) (s : σ) (a : Action) :
    w.Gated h s a (w.perform h s a) where
  once := fun r => Nat.le_trans List.count_le_length (w.requests_length_le h s a)
  generate := by rw [generate_mem_requests, lacksPreview_iff]
  submit := by rw [submit_mem_requests, canSubmit_iff]
  change := fun _ => change_mem_requests
  cancel := cancel_mem_requests
  answered := fun _ => perform_answered
  silent := perform_host_of_calls_eq_nil

theorem step_of_step_ne {w : Wizard} {h : Host σ} {s : σ} {a : Action}
    (hne : (w.perform h s a).wizard.step ≠ w.step) :
    (∃ r, (w.perform h s a).outcome = .done r) ∧
      (a = .advance ∨ a = .retreat ∨
        (∃ j, a = .jump j ∧ (w.perform h s a).outcome = .done (.success true)) ∨
          ∃ editing, a = .start editing) := by
  cases a with
  | start editing => exact ⟨⟨_, rfl⟩, .inr (.inr (.inr ⟨editing, rfl⟩))⟩
  | advance =>
    rcases w.advance_step_or_done h s with hs | ⟨next, hd⟩
    · exact absurd hs hne
    · exact ⟨⟨_, Outcome.map_eq_done.2 ⟨next, hd, rfl⟩⟩, .inl rfl⟩
  | retreat => exact ⟨⟨_, rfl⟩, .inr (.inl rfl)⟩
  | jump j =>
    by_cases hr : w.reaches j = true
    · have hd : (w.perform h s (.jump j)).outcome = .done (.success true) := by
        rw [← hr]
        rfl
      exact ⟨⟨_, hd⟩, .inr (.inr (.inl ⟨j, rfl, hd⟩))⟩
    · exact absurd (show (w.jump j).step = w.step by rw [jump, if_neg hr]) hne
  | validate | cancel => exact absurd rfl hne
  | input e => exact absurd (congrArg step (w.input_wizard h s e)) hne
  | pickKind t => exact absurd (congrArg step (w.input_wizard h s (.pick t))) hne
  | generate => exact absurd (w.generate_step h s) hne
  | submit => exact absurd (w.submit_step h s) hne

theorem messages_of_failed {w : Wizard} {h : Host σ} {s : σ} {a : Action} {e : WizardError}
    (hf : (w.perform h s a).outcome = .failed e) :
    (w.perform h s a).wizard.messages = w.messages ∨ a = .advance ∧
      (w.perform h s a).wizard.messages = (w.checked h s).messages := by
  cases a with
  | start | retreat | jump | validate | cancel => cases hf
  | advance => exact .inr ⟨rfl, w.advance_messages h s⟩
  | input e => exact .inl (congrArg messages (w.input_wizard h s e))
  | pickKind t => exact .inl (congrArg messages (w.input_wizard h s (.pick t)))
  | generate => exact .inl (generate_messages_of_failed (Outcome.map_eq_failed.1 hf))
  | submit => exact .inl (w.submit_messages h s)

/-- The flags are only as before because no call is in flight between two actions. -/
theorem atomic {w : Wizard} (hb : w.busy = .idle) (h : Host σ) (s : σ) (a : Action) :
    w.Atomic h s a (w.perform h s a) where
  advance := by
    rintro rfl r hd
    obtain ⟨next, hn, rfl⟩ := Outcome.map_eq_done.1 hd
    obtain ⟨hs, hr⟩ := advance_step_of_done hn
    refine ⟨congrArg Reply.step hs.symm, ?_⟩
    rw [show (w.perform h s .advance).wizard.step = next from hs]
    exact hr
  step := step_of_step_ne
  failed := by
    intro e hf
    have hs : (w.perform h s a).wizard.step = w.step := by
      by_contra hne
      obtain ⟨⟨r, hd⟩, -⟩ := step_of_step_ne hne
      rw [hf] at hd
      cases hd
    have ha : a.opens? = none := by
      cases a <;> first | rfl | cases hf
    have hfr := w.perform_frame h s ha
    exact ⟨hs, hfr.editing, hfr.config, (hfr.idle hb).trans hb.symm⟩
  messages := by
    intro e hf j hne
    rcases messages_of_failed hf with hm | ⟨ha, hm⟩
    · exact absurd (by rw [hm]) hne
    · rw [hm, checked_messages] at hne ⊢
      by_cases hj : j = w.step
      · exact ⟨ha, hj, if_pos hj⟩
      · exact absurd (if_neg hj) hne

/-- **Calls are made exactly behind their gates, and failures leave no trace.** -/
theorem perform_gated {w : Wizard} (hw : Reachable w) (h : Host σ) (s : σ) (a : Action) :
    w.Gated h s a (w.perform h s a) ∧ w.Atomic h s a (w.perform h s a) :=
  ⟨w.gated h s a, atomic hw.idle h s a⟩

/-- A wizard at the settings asks for a preview, does not get one, and stays there. -/
theorem perform_gated_without_generator : ∃ w : Wizard, Reachable w ∧ w.step = .settings ∧
    .generate ∈ (w.perform Rehearsal.host Rehearsal.mute .advance).requests ∧
      (w.perform Rehearsal.host Rehearsal.mute .advance).wizard.step = .settings := by
  have hw := ((Reachable.new .standard false).perform Rehearsal.host Rehearsal.mute .advance
    |>.perform Rehearsal.host Rehearsal.mute .advance)
  obtain ⟨hg, ha⟩ := perform_gated hw Rehearsal.host Rehearsal.mute .advance
  refine ⟨_, hw, by decide, hg.generate.2 ⟨.inl ⟨rfl, by decide⟩, by decide, nofun⟩, ?_⟩
  rw [(ha.failed (.previewFailed "no code generator") (by decide)).1]
  decide

end Wizard

end ToolAuthoring
