import ToolAuthoring.CommandLine.FileHost
import ToolAuthoring.Proofs.Wizard.Calls
import ToolAuthoring.Wizard.Rehearsal

/-!
# Hosts that change their drafts by edits

A host may do with its draft whatever it likes, but a decent one only ever puts edits into it, and
only those it is handed.

* `Host.EditsOnly`: the law, kept by the host on files and by a rehearsal.
* `Host.AppliesEdits`, `Host.LeavesDraft`: more than the law, every edit is applied or refused as
  the draft has it, and no other call touches the draft.  The host on files keeps both.
* `input_applied`, `input_refused`: what becomes of an edit if every edit is applied.
* `EditsOnly.perform_draft`: under the law an action leaves the draft alone or puts one edit into it.
-/

namespace ToolAuthoring

variable {σ : Type}

/-- A draft changes only when an edit is handed on, and then as the edit says or not at all. -/
structure Host.EditsOnly (h : Host σ) : Prop where
  change : ∀ busy e s, h.draft (h.change busy e s).1 = h.draft s ∨
    (h.draft s).apply e = .ok (h.draft (h.change busy e s).1)
  generate : ∀ busy s, h.draft (h.generate busy s).state = h.draft s
  submit : ∀ busy s, h.draft (h.submit busy s).state = h.draft s
  cancel : ∀ busy s, h.draft (h.cancel busy s) = h.draft s

/-- Every edit that is handed on is applied: the draft becomes what the edit says, or the edit is
refused for the reason that the draft gives, and the draft stays. -/
structure Host.AppliesEdits (h : Host σ) : Prop where
  accepted : ∀ busy e s d, (h.draft s).apply e = .ok d →
    h.draft (h.change busy e s).1 = d ∧ (h.change busy e s).2 = .ok ()
  refused : ∀ busy e s x, (h.draft s).apply e = .error x →
    h.draft (h.change busy e s).1 = h.draft s ∧ (h.change busy e s).2 = .error x.message

/-- No call but that for an edit touches the draft. -/
structure Host.LeavesDraft (h : Host σ) : Prop where
  generate : ∀ busy s, h.draft (h.generate busy s).state = h.draft s
  submit : ∀ busy s, h.draft (h.submit busy s).state = h.draft s
  cancel : ∀ busy s, h.draft (h.cancel busy s) = h.draft s

theorem Host.AppliesEdits.editsOnly {h : Host σ} (ha : h.AppliesEdits) (hl : h.LeavesDraft) :
    h.EditsOnly where
  change := by
    intro busy e s
    cases he : (h.draft s).apply e with
    | ok d => exact .inr (congrArg Except.ok (ha.accepted busy e s d he).1.symm)
    | error x => exact .inl (ha.refused busy e s x he).1
  generate := hl.generate
  submit := hl.submit
  cancel := hl.cancel

/-! ### What becomes of an edit -/

namespace Wizard

variable {h : Host σ}

theorem input_locked {w : Wizard} {s : σ} {e : DraftEdit} (hed : w.editing = true)
    (hk : e.field = .kind) : w.input h s e = ⟨w, s, .failed .kindLocked, [], []⟩ := by
  simp [input, hed, hk]

theorem input_applied (hh : h.AppliesEdits) {w : Wizard} {s : σ} {e : DraftEdit} {d : Draft}
    (hl : ¬ (w.editing = true ∧ e.field = .kind)) (hd : (h.draft s).apply e = .ok d) :
    (w.input h s e).outcome = .done () ∧ h.draft (w.input h s e).host = d := by
  obtain ⟨hnew, hok⟩ := hh.accepted w.busy e s d hd
  have hi := w.inputs h s e
  generalize w.input h s e = t at hi
  cases hi with
  | locked hed hk => exact absurd ⟨hed, hk⟩ hl
  | accepted => exact ⟨rfl, hnew⟩
  | rejected _ he =>
    rw [hok] at he
    cases he

theorem input_refused (hh : h.AppliesEdits) {w : Wizard} {s : σ} {e : DraftEdit} {x : DraftError}
    (hl : ¬ (w.editing = true ∧ e.field = .kind)) (hx : (h.draft s).apply e = .error x) :
    (w.input h s e).outcome = .failed (.inputRejected x.message) ∧
      h.draft (w.input h s e).host = h.draft s := by
  obtain ⟨hsame, hno⟩ := hh.refused w.busy e s x hx
  have hi := w.inputs h s e
  generalize w.input h s e = t at hi
  cases hi with
  | locked hed hk => exact absurd ⟨hed, hk⟩ hl
  | accepted _ he =>
    rw [hno] at he
    cases he
  | rejected _ he =>
    cases he.symm.trans hno
    exact ⟨rfl, hsame⟩

end Wizard

/-! ### What an action does to the draft -/

theorem Host.EditsOnly.answered_draft {h : Host σ} (hh : h.EditsOnly) {c : HostCall σ} {after : σ}
    (hc : c.AnsweredBy h after) : h.draft after = h.draft c.before ∨
      ∃ e, c.request = .change e ∧ (h.draft c.before).apply e = .ok (h.draft after) := by
  obtain ⟨request, busy, before, ending⟩ := c
  cases request with
  | change e =>
    obtain ⟨rfl, -⟩ := hc
    exact (hh.change busy e before).imp_right fun hd => ⟨e, rfl, hd⟩
  | generate =>
    obtain ⟨rfl, -⟩ := hc
    exact .inl (hh.generate busy before)
  | submit =>
    obtain ⟨rfl, -⟩ := hc
    exact .inl (hh.submit busy before)
  | cancel =>
    obtain ⟨rfl, -⟩ := hc
    exact .inl (hh.cancel busy before)

/-- An action leaves the draft alone, or it hands on an edit and the draft becomes what the edit
says. -/
theorem Host.EditsOnly.perform_draft {h : Host σ} (hh : h.EditsOnly) (w : Wizard) (s : σ)
    (a : Action) : h.draft (w.perform h s a).host = h.draft s ∨
      ∃ e, a.edit? = some e ∧ (h.draft s).apply e = .ok (h.draft (w.perform h s a).host) := by
  cases w.perform_accounts h s a with
  | silent _ same => exact .inl (congrArg h.draft same)
  | @called c one answered =>
    have hc : c ∈ (w.perform h s a).calls := by
      rw [one]
      exact List.mem_singleton_self c
    have hdraft := hh.answered_draft answered
    rw [Wizard.before_of_mem_calls hc] at hdraft
    refine hdraft.imp_right ?_
    rintro ⟨e, hr, hd⟩
    -- an edit is handed on by no other action than the one that asks for it
    exact ⟨e, (Wizard.change_mem_requests.1 (List.mem_map.2 ⟨c, hc, hr⟩)).1, hd⟩

/-! ### Hosts that keep the law -/

theorem Rehearsal.host_editsOnly : Rehearsal.host.EditsOnly where
  change := by
    intro busy e r
    show (r.change e).1.draft = r.draft ∨ r.draft.apply e = .ok (r.change e).1.draft
    unfold Rehearsal.change
    cases r.refusal with
    | some m => exact .inl rfl
    | none =>
      cases he : r.draft.apply e with
      | ok d => exact .inr rfl
      | error x => exact .inl rfl
  generate := by
    intro busy r
    show r.generate.state.draft = r.draft
    unfold Rehearsal.generate
    dsimp only
    split <;> rfl
  submit := fun _ _ => rfl
  cancel := fun _ _ => rfl

namespace FileHost

theorem write_draft {x y : FileHost} {path s : String} (hw : x.write path s = .ok y) :
    y.draft = x.draft := by
  unfold write at hw
  split at hw
  · cases hw
    rfl
  · cases hw

theorem savePreview_draft {x y : FileHost} (hs : x.savePreview = .ok y) : y.draft = x.draft := by
  unfold savePreview at hs
  split at hs
  · exact write_draft hs
  · cases hs
    rfl

theorem submit_draft (x : FileHost) : x.submit.state.draft = x.draft := by
  unfold submit
  split
  · rfl
  · rename_i y hy
    have hd : y.draft = x.draft := write_draft hy
    split
    · exact hd
    · rename_i z hz
      exact (savePreview_draft hz).trans hd

theorem host_appliesEdits : FileHost.host.AppliesEdits where
  accepted := by
    intro busy e x d he
    show (x.change e).1.draft = d ∧ (x.change e).2 = .ok ()
    rw [FileHost.change, show x.draft.apply e = .ok d from he]
    exact ⟨rfl, rfl⟩
  refused := by
    intro busy e x y he
    show (x.change e).1.draft = x.draft ∧ (x.change e).2 = .error y.message
    rw [FileHost.change, show x.draft.apply e = .error y from he]
    exact ⟨rfl, rfl⟩

theorem host_leavesDraft : FileHost.host.LeavesDraft where
  generate := by
    intro busy x
    show x.generate.state.draft = x.draft
    unfold FileHost.generate
    split
    · rfl
    · split <;> rfl
  submit := fun _ x => x.submit_draft
  cancel := fun _ _ => rfl

theorem host_editsOnly : FileHost.host.EditsOnly :=
  host_appliesEdits.editsOnly host_leavesDraft

end FileHost

end ToolAuthoring
