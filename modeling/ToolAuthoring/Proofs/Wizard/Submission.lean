import ToolAuthoring.Proofs.Draft.Edits
import ToolAuthoring.Proofs.Wizard.Calls
import ToolAuthoring.Proofs.Wizard.Ground
import ToolAuthoring.Proofs.Wizard.Hosts

/-!
# What is submitted

Submitting looks at the preview only.  That the draft has a kind and a name by then is known from
the way to the review: each step asks for its own part before it is left, and what an earlier step
has asked for can only be taken back by going back to that step.

* `Draft.FilledFor`: the invariant, indexed by the step.
* `FilledFor.perform`: every action preserves it.
* `NewToolRun.complete`: **whatever is submitted of a new tool is complete**.
-/

namespace ToolAuthoring

variable {σ : Type}

/-- The fields that can be edited at a step. -/
def Step.offers : Step → DraftField → Bool
  | .kind, .kind => true
  | .basics, .name | .basics, .description | .basics, .active => true
  | .settings, .code | .settings, .setting _ => true
  | .preview, .code => true
  | _, _ => false

theorem Step.offers_kind_iff {step : Step} : step.offers .kind = true ↔ step = .kind := by
  cases step <;> decide

theorem Step.offers_name_iff {step : Step} : step.offers .name = true ↔ step = .basics := by
  cases step <;> decide

/-- What was asked for before a step is filled in. -/
structure Draft.FilledFor (d : Draft) (step : Step) : Prop where
  kind : Step.kind.index < step.index → d.hasKind = true
  name : Step.basics.index < step.index → d.hasName = true

/-- A draft with everything that a tool needs. -/
structure Draft.Complete (d : Draft) (c : WizardConfig) (preview : Option String) : Prop where
  kind : ∃ t, d.kind = some t
  name : isBlank d.name = false
  code : d.kind = some c.selfAuthored ∨ ∃ code ∈ preview, isBlank code = false

/-! ### The invariant -/

namespace Draft.FilledFor

variable {d d' : Draft} {step step' : Step}

theorem first : d.FilledFor .first where
  kind := fun h => absurd h (Nat.lt_irrefl _)
  name := fun h => absurd h (Nat.not_lt_zero _)

theorem of_le (hd : d.FilledFor step) (hle : step'.index ≤ step.index) : d.FilledFor step' where
  kind := fun h => hd.kind (Nat.lt_of_lt_of_le h hle)
  name := fun h => hd.name (Nat.lt_of_lt_of_le h hle)

theorem next {c : WizardConfig} {preview : Option String} (hd : d.FilledFor step)
    (hc : c.check step d preview = none) (hi : step'.index = step.index + 1) :
    d.FilledFor step' where
  kind := by
    intro _
    cases step with
    | kind => exact WizardConfig.check_kind_eq_none.1 hc
    | _ => exact hd.kind (by decide)
  name := by
    intro hlt
    cases step with
    | kind =>
      rw [hi] at hlt
      exact absurd hlt (Nat.lt_irrefl _)
    | basics => exact WizardConfig.check_basics_eq_none.1 hc
    | _ => exact hd.name (by decide)

/-- An edit of what a step offers takes nothing back that an earlier step has asked for. -/
theorem apply {e : DraftEdit} (hd : d.FilledFor step) (ha : d.apply e = .ok d')
    (ho : step.offers e.field = true) : d'.FilledFor step where
  kind := by
    intro hlt
    have he : e.field ≠ .kind := by
      intro he
      rw [he, Step.offers_kind_iff] at ho
      rw [ho] at hlt
      exact absurd hlt (Nat.lt_irrefl _)
    rw [hasKind, apply_kind_of_ne ha he]
    exact hd.kind hlt
  name := by
    intro hlt
    have he : e.field ≠ .name := by
      intro he
      rw [he, Step.offers_name_iff] at ho
      rw [ho] at hlt
      exact absurd hlt (Nat.lt_irrefl _)
    rw [hasName, apply_name_of_ne ha he]
    exact hd.name hlt

theorem perform_step {w : Wizard} {h : Host σ} {s : σ} {a : Action} (hd : d.FilledFor w.step)
    (hs : h.draft s = d) (ha : a.opens? ≠ some true) :
    d.FilledFor (w.perform h s a).wizard.step := by
  cases hop : a.opens? with
  | some editing =>
    cases editing with
    | true => exact absurd hop ha
    | false =>
      rw [Wizard.perform_of_opens hop]
      exact first
  | none =>
    by_cases hlt : w.step.index < (w.perform h s a).wizard.step.index
    · obtain ⟨hp, hi⟩ := passes_of_lt hop hlt
      subst hs
      exact hd.next hp.valid hi
    · exact hd.of_le (Nat.not_lt.1 hlt)

theorem perform {w : Wizard} {h : Host σ} {s : σ} {a : Action} (hh : h.EditsOnly)
    (hd : (h.draft s).FilledFor w.step) (ha : a.opens? ≠ some true)
    (ho : ∀ e ∈ a.edit?, w.step.offers e.field = true) :
    (h.draft (w.perform h s a).host).FilledFor (w.perform h s a).wizard.step := by
  have hstep := hd.perform_step rfl ha
  rcases hh.perform_draft w s a with hsame | ⟨e, he, hap⟩
  · rw [hsame]
    exact hstep
  · refine hstep.apply hap ?_
    rw [Wizard.perform_of_edit he]
    exact ho e he

end Draft.FilledFor

/-! ### New tools -/

/-- A run in which new tools are made.  Between two actions the draft stays as it is, and only what
a step offers is edited there. -/
structure NewToolRun (h : Host σ) (start : Wizard) (past : List (Event σ)) (w : Wizard) : Prop where
  opens : Opens false start
  run : Run h start past w
  fresh : ∀ e ∈ past, e.action.opens? ≠ some true
  steady : Steady h h.draft past
  offered : ∀ e ∈ past, ∀ x ∈ e.action.edit?, e.wizard.step.offers x.field = true

/-- The draft is filled in as far as the wizard has come, for every action as it begins and for the
one to come. -/
theorem NewToolRun.filledFor {h : Host σ} {start w : Wizard} {past : List (Event σ)}
    (hh : h.EditsOnly) (hn : NewToolRun h start past w) :
    (∀ e ∈ past, (h.draft e.found).FilledFor e.wizard.step) ∧
      ∀ s, (∀ e ∈ past.head?, h.draft s = h.draft (e.turn h).host) →
        (h.draft s).FilledFor w.step := by
  obtain ⟨ho, hr, hfresh, hsteady, hoffered⟩ := hn
  induction hr with
  | refl =>
    refine ⟨fun e he => absurd he List.not_mem_nil, fun s _ => ?_⟩
    rw [ho.step_eq]
    exact .first
  | @tail past w prior s a ih =>
    obtain ⟨hlast, hsteady⟩ := List.isChain_cons.1 hsteady
    obtain ⟨hpast, hnow⟩ := ih (fun e he => hfresh e (List.mem_cons_of_mem _ he)) hsteady
      fun e he => hoffered e (List.mem_cons_of_mem _ he)
    have hs : (h.draft s).FilledFor w.step := hnow s hlast
    refine ⟨fun e he => ?_, fun s' hs' => ?_⟩
    · rcases List.mem_cons.1 he with rfl | he
      · exact hs
      · exact hpast e he
    · rw [hs' _ rfl]
      exact hs.perform hh (hfresh _ List.mem_cons_self) (hoffered _ List.mem_cons_self)

/-- **Whatever is submitted of a new tool is complete.** -/
theorem NewToolRun.complete {h : Host σ} {start w : Wizard} {past : List (Event σ)}
    (hh : h.EditsOnly) (hn : NewToolRun h start past w) {e : Event σ} (he : e ∈ past)
    {c : HostCall σ} (hc : c ∈ (e.turn h).calls) (hs : c.request = .submit) :
    (h.draft c.before).Complete start.config (h.preview c.before) := by
  have hreq : .submit ∈ (e.turn h).requests := List.mem_map.2 ⟨c, hc, hs⟩
  obtain ⟨-, hgate⟩ := Wizard.submit_mem_requests.1 hreq
  obtain ⟨hreview, -, hcode⟩ := Wizard.canSubmit_iff.1 hgate
  have hfilled := (hn.filledFor hh).1 e he
  rw [hreview] at hfilled
  rw [hn.run.config_of_mem he] at hcode
  rw [Wizard.before_of_mem_calls hc]
  refine ⟨Option.isSome_iff_exists.1 (hfilled.kind (by decide)), ?_, hcode⟩
  have hname := hfilled.name (by decide)
  rwa [Draft.hasName, Bool.not_eq_true'] at hname

/-- A rehearsal names its tool, gets a preview for it and submits it. -/
theorem Rehearsal.fetch_complete : ∃ (past : List (Event Rehearsal)) (w : Wizard),
    NewToolRun Rehearsal.host (.new .standard false) past w ∧
      ∃ e ∈ past, ∃ c ∈ (e.turn Rehearsal.host).calls, c.request = .submit ∧
        c.before.draft.Complete .standard c.before.preview := by
  let actions : List Action :=
    [.submit, .advance, .advance, .advance, .input ⟨.name, .text "Fetch"⟩, .advance]
  let start : Wizard := .new .standard false
  have hn := NewToolRun.mk (.new .standard) (replay_run Rehearsal.host start .fetch actions)
    (by decide) (replay_steady Rehearsal.host Rehearsal.host.draft start .fetch actions) (by decide)
  obtain ⟨e, he, c, hc, hs⟩ : ∃ e ∈ (replay Rehearsal.host start .fetch actions).1,
      ∃ c ∈ (e.turn Rehearsal.host).calls, c.request = .submit :=
    ⟨_, List.mem_cons_self, List.mem_map.1 (by decide)⟩
  exact ⟨_, _, hn, e, he, c, hc, hs, hn.complete Rehearsal.host_editsOnly he hc hs⟩

end ToolAuthoring
