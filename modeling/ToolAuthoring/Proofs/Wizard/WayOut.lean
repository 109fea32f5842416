import ToolAuthoring.Proofs.Draft.Edits
import ToolAuthoring.Proofs.Wizard.Calls
import ToolAuthoring.Proofs.Wizard.Ground
import ToolAuthoring.Proofs.Wizard.Hosts

/-!
# The way to the review

Wherever a session stands, filling in what the step asks for and moving on leads to the review, with
one exception.  A session that edits an existing tool may go back to the step of the kind; if the
draft has none, this step lets nobody on without a kind, the kind is locked, and no jump leads
ahead.

* `LeadsToReview`: some actions lead to the review with a draft that can be submitted.
* `Trapped`, `Trapped.perform`: the exception, and that no action gets out of it.
* `leadsToReview_of_preview`, `leadsToReview_of_settings`, `leadsToReview_of_basics`,
  `leadsToReview_of_kind`: the way, from its end to its beginning.
* `Session.leadsToReview_iff`: **a session leads to the review unless it is trapped**.
-/

namespace ToolAuthoring

variable {σ : Type}

/-- Every call for a preview returns, with a preview that is more than white space. -/
structure Host.GivesPreviews (h : Host σ) : Prop where
  returned : ∀ busy s, (h.generate busy s).ending = .returned
  stored : ∀ busy s, hasPreview (h.preview (h.generate busy s).state) = true

/-- What can be done on the way to the review: edit, move, and ask for a preview. -/
def Action.onTheWay : Action → Bool
  | .advance | .retreat | .jump _ | .input _ | .pickKind _ | .generate => true
  | .start _ | .validate .. | .submit | .cancel => false

theorem replay_append (h : Host σ) (start : Wizard) (s : σ) (later earlier : List Action) :
    (replay h start s (later ++ earlier)).2 =
      (replay h (replay h start s earlier).2.1 (replay h start s earlier).2.2 later).2 := by
  induction later with
  | nil => rfl
  | cons a later ih => simp only [List.cons_append, replay, ih]

namespace Wizard

/-- The wizard stands at the review, and the draft can be submitted. -/
def Ready (w : Wizard) (h : Host σ) (s : σ) : Prop :=
  w.step = .review ∧ w.canSubmit h s = true

/-- Some actions lead to the review, with a draft that can be submitted there. -/
def LeadsToReview (w : Wizard) (h : Host σ) (s : σ) : Prop :=
  ∃ actions, (∀ a ∈ actions, a.onTheWay = true) ∧
    (replay h w s actions).2.1.Ready h (replay h w s actions).2.2

/-- An existing tool without a kind is edited, at the step that asks for the kind. -/
def Trapped (w : Wizard) (h : Host σ) (s : σ) : Prop :=
  w.editing = true ∧ w.step = .kind ∧ (h.draft s).kind = none

variable {h : Host σ} {w : Wizard} {s : σ}

theorem LeadsToReview.of_perform {a : Action} (ha : a.onTheWay = true)
    (hl : (w.perform h s a).wizard.LeadsToReview h (w.perform h s a).host) :
    w.LeadsToReview h s := by
  obtain ⟨actions, hway, hready⟩ := hl
  refine ⟨actions ++ [a], fun b hb => ?_, ?_⟩
  · rcases List.mem_append.1 hb with hb | hb
    · exact hway b hb
    · rw [List.mem_singleton.1 hb]
      exact ha
  · rw [replay_append]
    exact hready

theorem LeadsToReview.of_edit (ha : h.AppliesEdits) {a : Action} {e : DraftEdit}
    (he : a.edit? = some e) (hl : ¬ (w.editing = true ∧ e.field = .kind)) {d : Draft}
    (hd : (h.draft s).apply e = .ok d) (hnext : ∀ s', h.draft s' = d → w.LeadsToReview h s') :
    w.LeadsToReview h s := by
  have hway : a.onTheWay = true := by
    cases a <;> first | rfl | cases he
  refine .of_perform hway ?_
  rw [perform_of_edit he, perform_edit he]
  exact hnext _ (input_applied ha hl hd).2

/-! ### No way out -/

theorem input_kind_of_editing (ha : h.AppliesEdits) (hed : w.editing = true) (s : σ)
    (e : DraftEdit) : (h.draft (w.input h s e).host).kind = (h.draft s).kind := by
  by_cases hk : e.field = .kind
  · rw [input_locked hed hk]
  · cases he : (h.draft s).apply e with
    | ok d =>
      rw [(input_applied ha (fun hl => hk hl.2) he).2]
      exact Draft.apply_kind_of_ne he hk
    | error x => rw [(input_refused ha (fun hl => hk hl.2) he).2]

/-- On the way nothing but an edit is handed to the host: it is not the step at which a preview would
be asked for. -/
theorem Trapped.perform_host (ht : w.Trapped h s) {a : Action} (hway : a.onTheWay = true)
    (ha : a.edit? = none) : (w.perform h s a).host = s := by
  obtain ⟨-, hs, -⟩ := ht
  refine perform_host_of_calls_eq_nil ?_
  rw [perform_calls]
  cases a with
  | start | validate | submit | cancel => cases hway
  | input | pickKind => cases ha
  | retreat | jump => rfl
  | advance | generate => simp [call?, previewCall?, hs]

theorem Trapped.perform_kind (ha : h.AppliesEdits) (ht : w.Trapped h s) {a : Action}
    (hway : a.onTheWay = true) : (h.draft (w.perform h s a).host).kind = (h.draft s).kind := by
  cases hedit : a.edit? with
  | none => rw [ht.perform_host hway hedit]
  | some e =>
    rw [perform_edit hedit]
    exact input_kind_of_editing ha ht.1 s e

/-- Whatever is done, the session stays where it is trapped: a step ahead could only be won by
passing the step of the kind, and no edit brings a kind. -/
theorem Trapped.perform (ha : h.AppliesEdits) (ht : w.Trapped h s) {a : Action}
    (hway : a.onTheWay = true) :
    (w.perform h s a).wizard.Trapped h (w.perform h s a).host := by
  have hkind := ht.perform_kind ha hway
  obtain ⟨hed, hs, hk⟩ := ht
  have hopens : a.opens? = none := by
    cases a <;> first | rfl | cases hway
  refine ⟨(w.perform_frame h s hopens).editing.trans hed, ?_, hkind.trans hk⟩
  by_contra hne
  -- no step stands before that of the kind, so the action has led ahead and the step was valid
  have hlt : w.step.index < (w.perform h s a).wizard.step.index := by
    rw [hs]
    exact Nat.pos_of_ne_zero fun h0 => hne (Step.index_injective h0)
  have hvalid := (passes_of_lt hopens hlt).1.valid
  rw [hs, WizardConfig.check_kind_eq_none, Draft.hasKind, hk] at hvalid
  cases hvalid

theorem Trapped.replay (ha : h.AppliesEdits) (ht : w.Trapped h s) {actions : List Action}
    (hway : ∀ a ∈ actions, a.onTheWay = true) :
    (replay h w s actions).2.1.Trapped h (replay h w s actions).2.2 := by
  induction actions with
  | nil => exact ht
  | cons a earlier ih =>
    have hearlier := ih fun b hb => hway b (List.mem_cons_of_mem _ hb)
    exact hearlier.perform ha (hway a List.mem_cons_self)

theorem Trapped.not_leadsToReview (ha : h.AppliesEdits) (ht : w.Trapped h s) :
    ¬ w.LeadsToReview h s := by
  rintro ⟨actions, hway, hreview, -⟩
  rw [(ht.replay ha hway).2.1] at hreview
  cases hreview

/-! ### The way -/

theorem canSubmit_of_review (hb : w.busy = .idle) (hs : w.step = .review) :
    w.canSubmit h s = !w.lacksPreview h s := by
  simp [canSubmit, WizardConfig.canSubmit, lacksPreview, hs, hb, Step.isLast_iff.2, Busy.idle]

/-- Moving on from a valid step that asks for no preview leads to the next one. -/
theorem advance_of_valid {next : Step}
    (hc : w.config.check w.step (h.draft s) (h.preview s) = none) (hn : w.step.next? = some next)
    (hset : w.step ≠ .settings) : (w.advance h s).wizard.step = next ∧ (w.advance h s).host = s := by
  have ha := w.advances h s
  generalize w.advance h s = t at ha
  cases ha with
  | refused hp =>
    rw [hc] at hp
    cases hp
  | stayed hr =>
    rw [hr] at hn
    cases hn
  | moved _ hn' =>
    cases hn.symm.trans hn'
    exact ⟨rfl, rfl⟩
  | generated hs | failed hs | dropped hs => exact absurd hs hset

theorem advance_of_settings (hg : h.GivesPreviews) (hs : w.step = .settings) :
    (w.advance h s).wizard.step = .preview := by
  have hret := hg.returned (w.checked h s).generating s
  have ha := w.advances h s
  generalize w.advance h s = t at ha
  cases ha with
  | refused hp =>
    rw [hs] at hp
    cases hp
  | stayed hr =>
    rw [hs] at hr
    cases hr
  | moved _ hn =>
    rw [hs] at hn
    cases hn
    rfl
  | generated => rfl
  | failed _ _ he | dropped _ _ he => cases hret.symm.trans he

theorem leadsToReview_of_previewed (hb : w.busy = .idle) (hs : w.step = .preview)
    (hl : w.lacksPreview h s = false) : w.LeadsToReview h s := by
  have hc : w.config.check w.step (h.draft s) (h.preview s) = none := by
    rw [hs, WizardConfig.check, if_neg]
    exact Bool.eq_false_iff.1 hl
  obtain ⟨hstep, hhost⟩ := advance_of_valid hc (by rw [hs]; rfl) (by rw [hs]; decide)
  -- the review asks for what the step of the preview has just asked for
  have hf := w.advance_frame h s
  have hready : (w.advance h s).wizard.Ready h (w.advance h s).host := by
    refine ⟨hstep, ?_⟩
    rw [canSubmit_of_review (hf.idle hb) hstep, lacksPreview, hf.config, hhost, ← lacksPreview, hl]
    rfl
  exact ⟨[.advance], by decide, hready⟩

theorem leadsToReview_of_preview (hg : h.GivesPreviews) (hb : w.busy = .idle)
    (hs : w.step = .preview) : w.LeadsToReview h s := by
  cases hl : w.lacksPreview h s with
  | false => exact leadsToReview_of_previewed hb hs hl
  | true =>
    have hf := w.generate_frame h s
    have hhost : hasPreview (h.preview (w.generate h s).host) = true := by
      have hgen := w.generates h s
      generalize w.generate h s = t at hgen
      cases hgen with
      | unavailable hgate => exact absurd ⟨hs, hl⟩ hgate
      | generated | failed | dropped => exact hg.stored _ s
    refine .of_perform (a := .generate) rfl
      (leadsToReview_of_previewed (hf.idle hb) ((w.generate_step h s).trans hs) ?_)
    show (w.generate h s).wizard.lacksPreview h (w.generate h s).host = false
    rw [lacksPreview, hhost]
    simp

theorem leadsToReview_of_review (hg : h.GivesPreviews) (hb : w.busy = .idle)
    (hs : w.step = .review) : w.LeadsToReview h s := by
  cases hsub : w.canSubmit h s with
  | true => exact ⟨[], by decide, hs, hsub⟩
  | false =>
    have hstep : (w.jump .preview).step = .preview := by
      rw [jump, reaches, hs]
      rfl
    exact .of_perform (a := .jump .preview) rfl
      (leadsToReview_of_preview hg ((w.jump_frame .preview).idle hb) hstep)

theorem leadsToReview_of_settings (hg : h.GivesPreviews) (hb : w.busy = .idle)
    (hs : w.step = .settings) : w.LeadsToReview h s :=
  .of_perform (a := .advance) rfl
    (leadsToReview_of_preview hg ((w.advance_frame h s).idle hb) (advance_of_settings hg hs))

theorem leadsToReview_of_valid (hb : w.busy = .idle) {next : Step}
    (hc : w.config.check w.step (h.draft s) (h.preview s) = none) (hn : w.step.next? = some next)
    (hset : w.step ≠ .settings)
    (hnext : ∀ w' s', Wizard.busy w' = .idle → w'.step = next → w'.LeadsToReview h s') :
    w.LeadsToReview h s :=
  .of_perform (a := .advance) rfl
    (hnext _ _ ((w.advance_frame h s).idle hb) (advance_of_valid hc hn hset).1)

/-- At the step of the name a name is filled in, whether there is one or not. -/
theorem leadsToReview_of_basics (ha : h.AppliesEdits) (hg : h.GivesPreviews)
    (hb : w.busy = .idle) (hs : w.step = .basics) : w.LeadsToReview h s := by
  refine .of_edit ha (a := .input ⟨.name, .text "Tool"⟩) rfl (by simp) rfl fun s' hd => ?_
  refine leadsToReview_of_valid hb ?_ (by rw [hs]; rfl) (by rw [hs]; decide)
    fun w' s'' => leadsToReview_of_settings hg
  rw [hs, WizardConfig.check_basics_eq_none, hd]
  show (!isBlank "Tool") = true
  decide

theorem leadsToReview_of_kind (ha : h.AppliesEdits) (hg : h.GivesPreviews)
    (hb : w.busy = .idle) (hs : w.step = .kind) (hk : (h.draft s).hasKind = true) :
    w.LeadsToReview h s := by
  refine leadsToReview_of_valid hb ?_ (by rw [hs]; rfl) (by rw [hs]; decide)
    fun w' s' => leadsToReview_of_basics ha hg
  rw [hs]
  exact WizardConfig.check_kind_eq_none.2 hk

theorem leadsToReview_of_new (ha : h.AppliesEdits) (hg : h.GivesPreviews) (hb : w.busy = .idle)
    (hs : w.step = .kind) (hed : w.editing = false) : w.LeadsToReview h s := by
  refine .of_edit ha (a := .pickKind .rag) rfl (by simp [hed]) (Draft.apply_pick _ _)
    fun s' hd => leadsToReview_of_kind ha hg hb hs ?_
  rw [hd]
  rfl

theorem leadsToReview_of_not_trapped (ha : h.AppliesEdits) (hg : h.GivesPreviews)
    (hb : w.busy = .idle) (ht : ¬ w.Trapped h s) : w.LeadsToReview h s := by
  cases hs : w.step with
  | basics => exact leadsToReview_of_basics ha hg hb hs
  | settings => exact leadsToReview_of_settings hg hb hs
  | preview => exact leadsToReview_of_preview hg hb hs
  | review => exact leadsToReview_of_review hg hb hs
  | kind =>
    cases hed : w.editing with
    | false => exact leadsToReview_of_new ha hg hb hs hed
    | true =>
      refine leadsToReview_of_kind ha hg hb hs ?_
      by_contra hk
      exact ht ⟨hed, hs, by simpa [Draft.hasKind] using hk⟩

end Wizard

/-- **From wherever a session stands some actions lead to the review, with a draft that can be
submitted, unless an existing tool without a kind has been taken back to the step of the kind.** -/
theorem Session.leadsToReview_iff {h : Host σ} (ha : h.AppliesEdits) (hg : h.GivesPreviews)
    {editing : Bool} {start w : Wizard} {past : List (Event σ)} (hr : Reachable start)
    (hs : Session h editing start past w) (s : σ) : w.LeadsToReview h s ↔
      ¬ (editing = true ∧ w.step = .kind ∧ (h.draft s).kind = none) := by
  rw [← hs.editing_eq]
  exact ⟨fun hl ht => Wizard.Trapped.not_leadsToReview ha ht hl,
    Wizard.leadsToReview_of_not_trapped ha hg (hs.run.reachable hr).idle⟩

/-! ### An existing tool with and without a kind -/

namespace FileHost

/-- The host on files with a generator in place of the preview's file. -/
def generatorHost : Host FileHost :=
  { host with generate := fun _ x => ⟨{ x with preview := some "pass" }, .returned, []⟩ }

theorem generatorHost_appliesEdits : generatorHost.AppliesEdits :=
  ⟨host_appliesEdits.accepted, host_appliesEdits.refused⟩

theorem generatorHost_givesPreviews : generatorHost.GivesPreviews where
  returned := fun _ _ => rfl
  stored := by
    intro _ _
    show hasPreview (some "pass") = true
    decide

/-- A host on files with a named tool of some kind, or of none. -/
def ofKind (kind : Option ToolKind) : FileHost :=
  ⟨⟨"Fetch", "", kind, .empty, "", false, []⟩, none, none, "tool.json", false, .empty⟩

/-- An existing tool that is taken back to its kind and has one leads to the review again. -/
theorem leadsToReview_of_typed : ∃ (past : List (Event FileHost)) (w : Wizard),
    Session generatorHost true (.new .standard true) past w ∧ w.step = .kind ∧
      w.LeadsToReview generatorHost (ofKind (some .apiCall)) := by
  have hs := Session.mk (.new .standard) (replay_run generatorHost (.new .standard true)
    (ofKind (some .apiCall)) [.retreat]) (by decide)
  exact ⟨_, _, hs, by decide, (hs.leadsToReview_iff generatorHost_appliesEdits
    generatorHost_givesPreviews (.new .standard true) _).2 (by decide)⟩

/-- An existing tool that is taken back to its kind and has none does not lead anywhere. -/
theorem not_leadsToReview_of_untyped : generatorHost.AppliesEdits ∧ generatorHost.GivesPreviews ∧
    Session generatorHost true (.new .standard true)
      (replay generatorHost (.new .standard true) (ofKind none) [.retreat]).1
      (replay generatorHost (.new .standard true) (ofKind none) [.retreat]).2.1 ∧
    ¬ (replay generatorHost (.new .standard true) (ofKind none) [.retreat]).2.1.LeadsToReview
      generatorHost (replay generatorHost (.new .standard true) (ofKind none) [.retreat]).2.2 :=
  ⟨generatorHost_appliesEdits, generatorHost_givesPreviews,
    ⟨.new .standard, replay_run .., by decide⟩,
    Wizard.Trapped.not_leadsToReview generatorHost_appliesEdits ⟨rfl, rfl, rfl⟩⟩

end FileHost

end ToolAuthoring
