import ToolAuthoring.Proofs.Draft.Edits
import ToolAuthoring.Proofs.Wizard.Calls
import ToolAuthoring.Proofs.Wizard.Hosts

/-!
# The kind of an existing tool

While an existing tool is edited its kind is locked.  The lock is a look at the field of an edit and
stands at one place only, so two more things are needed for the kind to stay: nothing else changes
it, and an edit of another field does not either, whatever its key and its value.

* `perform_kind_of_editing`: one action leaves the kind of an existing tool alone.
* `edits_of_editing`: one edit is refused as locked, or does what the draft makes of it.
* `EditingRun.kind_fixed`: **the kind stays throughout an editing session, and every other edit goes
  through as if there were no wizard**.
-/

namespace ToolAuthoring

variable {σ : Type}

/-- A run in which an existing tool is edited, from the draft with which the session begins.
Between two actions the draft stays as it is. -/
structure EditingRun (h : Host σ) (d : Draft) (start : Wizard) (past : List (Event σ))
    (w : Wizard) : Prop where
  session : Session h true start past w
  begins : ∀ e ∈ past.getLast?, h.draft e.found = d
  steady : Steady h h.draft past

/-- What becomes of an edit of an existing tool.  An edit of the kind is refused as locked and does
not reach the host; any other edit does to the draft what it says, or is refused for the reason that
the draft gives and changes nothing. -/
structure Event.Edits (e : Event σ) (h : Host σ) (x : DraftEdit) : Prop where
  locked : x.field = .kind → (e.turn h).outcome = .failed .kindLocked ∧
    (e.turn h).host = e.found ∧ (e.turn h).calls = []
  accepted : x.field ≠ .kind → ∀ d, (h.draft e.found).apply x = .ok d →
    (e.turn h).outcome = .done .nothing ∧ h.draft (e.turn h).host = d
  refused : x.field ≠ .kind → ∀ y, (h.draft e.found).apply x = .error y →
    (e.turn h).outcome = .failed (.inputRejected y.message) ∧
      h.draft (e.turn h).host = h.draft e.found

/-! ### One action -/

theorem Wizard.perform_kind_of_editing {h : Host σ} (hh : h.EditsOnly) {w : Wizard}
    (hed : w.editing = true) (s : σ) (a : Action) :
    (h.draft (w.perform h s a).host).kind = (h.draft s).kind := by
  rcases hh.perform_draft w s a with hsame | ⟨x, hx, hap⟩
  · rw [hsame]
  · by_cases hk : x.field = .kind
    · rw [perform_edit hx, input_locked hed hk]
      rfl
    · exact Draft.apply_kind_of_ne hap hk

theorem Event.edits_of_editing {h : Host σ} (ha : h.AppliesEdits) {e : Event σ}
    (hed : e.wizard.editing = true) {x : DraftEdit} (hx : e.action.edit? = some x) :
    e.Edits h x := by
  have hturn : e.turn h = (e.wizard.input h e.found x).map fun _ => .nothing :=
    Wizard.perform_edit hx
  refine ⟨fun hk => ?_, fun hk d hd => ?_, fun hk y hy => ?_⟩ <;> rw [hturn]
  · rw [Wizard.input_locked hed hk]
    exact ⟨rfl, rfl, rfl⟩
  · obtain ⟨hok, hnew⟩ := Wizard.input_applied ha (fun hl => hk hl.2) hd
    exact ⟨by rw [Turn.map_outcome, hok]; rfl, hnew⟩
  · obtain ⟨hno, hsame⟩ := Wizard.input_refused ha (fun hl => hk hl.2) hy
    exact ⟨by rw [Turn.map_outcome, hno]; rfl, hsame⟩

/-! ### A whole session -/

theorem EditingRun.prior {h : Host σ} {d : Draft} {start w w' : Wizard} {e : Event σ}
    {past : List (Event σ)} (hr : EditingRun h d start (e :: past) w) (hp : Run h start past w') :
    EditingRun h d start past w' where
  session := ⟨hr.session.opens, hp, fun x hx => hr.session.within x (List.mem_cons_of_mem _ hx)⟩
  begins := by
    intro x hx
    refine hr.begins x ?_
    rw [List.getLast?_cons, Option.mem_def.1 hx]
    rfl
  steady := (List.isChain_cons.1 hr.steady).2

/-- The kind stays from the beginning of the session to each action, and through that action. -/
theorem EditingRun.kind_eq {h : Host σ} (hh : h.EditsOnly) {d : Draft} {start w : Wizard}
    {past : List (Event σ)} (hr : EditingRun h d start past w) :
    ∀ e ∈ past, (h.draft e.found).kind = d.kind ∧ (h.draft (e.turn h).host).kind = d.kind := by
  have hrun := hr.session.run
  induction hrun with
  | refl => exact fun e he => absurd he List.not_mem_nil
  | @tail past w prior s a ih =>
    have hpast := ih (hr.prior prior)
    -- the first action finds the draft of the beginning, any other what the one before it left
    have hfound : (h.draft s).kind = d.kind := by
      cases hlast : past.head? with
      | none =>
        obtain rfl := List.head?_eq_none_iff.1 hlast
        exact congrArg Draft.kind (hr.begins _ rfl)
      | some x =>
        have hs : h.draft s = h.draft (x.turn h).host :=
          (List.isChain_cons.1 hr.steady).1 x hlast
        rw [hs]
        exact (hpast x (List.mem_of_mem_head? hlast)).2
    have hed : w.editing = true := hr.session.editing_of_mem List.mem_cons_self
    intro e he
    rcases List.mem_cons.1 he with rfl | he
    · exact ⟨hfound, (Wizard.perform_kind_of_editing hh hed s a).trans hfound⟩
    · exact hpast e he

/-- **While an existing tool is edited its kind stays, and every other edit goes through.** -/
theorem EditingRun.kind_fixed {h : Host σ} (ha : h.AppliesEdits) (hl : h.LeavesDraft) {d : Draft}
    {start w : Wizard} {past : List (Event σ)} (hr : EditingRun h d start past w) {e : Event σ}
    (he : e ∈ past) :
    (h.draft e.found).kind = d.kind ∧ (h.draft (e.turn h).host).kind = d.kind ∧
      (∀ c ∈ (e.turn h).calls, (h.draft c.before).kind = d.kind) ∧
        ∀ x ∈ e.action.edit?, e.Edits h x := by
  obtain ⟨hfound, hleft⟩ := hr.kind_eq (ha.editsOnly hl) e he
  refine ⟨hfound, hleft, fun c hc => ?_, fun x hx => ?_⟩
  · rw [Wizard.before_of_mem_calls hc]
    exact hfound
  · exact e.edits_of_editing ha (hr.session.editing_of_mem he) hx

/-- An existing tool on files that is renamed while its kind and a setting called `type` are set. -/
theorem FileHost.renamed_kind_fixed : ∃ (past : List (Event FileHost)) (w : Wizard),
    EditingRun FileHost.host Rehearsal.fetch.draft (.new .standard true) past w ∧
      past.map (fun e => (e.turn FileHost.host).outcome) =
        [.done .nothing, .failed .kindLocked, .done .nothing] ∧
      ∀ e ∈ past, (FileHost.host.draft (e.turn FileHost.host).host).kind = some .apiCall := by
  let actions : List Action :=
    [.input ⟨.setting "type", .text "rag"⟩, .pickKind .rag, .input ⟨.name, .text "Renamed"⟩]
  let start : Wizard := .new .standard true
  let x : FileHost := ⟨Rehearsal.fetch.draft, none, none, "tool.json", false, .empty⟩
  have hr : EditingRun FileHost.host x.draft start (replay FileHost.host start x actions).1 _ :=
    ⟨⟨.new .standard, replay_run FileHost.host start x actions, by decide⟩,
      by rintro e ⟨⟩; rfl, replay_steady FileHost.host FileHost.host.draft start x actions⟩
  exact ⟨_, _, hr, by decide,
    fun e he => (hr.kind_fixed host_appliesEdits host_leavesDraft he).2.1⟩

end ToolAuthoring
