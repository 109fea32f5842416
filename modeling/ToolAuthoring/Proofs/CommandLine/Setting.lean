import ToolAuthoring.Proofs.CommandLine.Saving
import ToolAuthoring.Proofs.CommandLine.Walk

/-!
# Setting fields

A command that sets a field reads the draft, edits it and writes it back.  Nothing is written unless
the edit has been accepted, and then writing succeeds, since the draft was read from the same file.
So a file on which such commands work follows a draft in memory to which the same edits are applied.

* `FileStore.draft?`: the draft that a file holds; `FieldChange`: the arguments of a command.
* `FieldChange.Sets`: the two ways in which a command can end; `FieldChange.sets_run`: there are no
  others.
* `FieldChange.runAll_draft?`: **the file follows the draft in memory**.
* `FieldChange.refines`: one command, and any number of them.
-/

namespace ToolAuthoring

/-- The draft that a file holds, if it holds one. -/
def FileStore.draft? (store : FileStore) (path : String) : Option Draft :=
  (store.read path).toOption.bind fun s => (Draft.decode.ofText s).toOption

namespace FileStore

variable {store : FileStore} {path : String} {d : Draft}

theorem draft?_eq_some_iff : store.draft? path = some d ↔
    ∃ s, store.read path = .ok s ∧ Draft.decode.ofText s = .ok d := by
  simp only [draft?, Option.bind_eq_some_iff, toOption_eq_some_iff]

/-- A draft is read from a file and not from a device. -/
theorem file_of_draft? (h : store.draft? path = some d) :
    ∃ l, store.locate path = .ok l ∧ store.devices.lookup l = none := by
  obtain ⟨s, hr, hd⟩ := draft?_eq_some_iff.1 h
  -- a device reads as the empty text, which is no draft
  refine file_of_read hr ?_
  rintro rfl
  have hempty : (Draft.decode.ofText "").toOption.isNone = true := by decide +kernel
  rw [hd] at hempty
  cases hempty

theorem draft?_of_written {after : FileStore} {l : Location} (hr : d.json.ReadsBack)
    (hd : store.devices.lookup l = none) (hw : store.Written path d.json.pretty l after) :
    after.draft? path = some d :=
  draft?_eq_some_iff.2 ⟨_, hw.read_file hd, Draft.decode_pretty hr⟩

end FileStore

theorem FileHost.load_of_draft?_eq_none {files : FileStore} {path : String}
    (h : files.draft? path = none) : ∃ f, load files path = .error f := by
  unfold load
  cases hr : files.read path with
  | error e => exact ⟨_, rfl⟩
  | ok s =>
    cases hd : Draft.decode.ofText s with
    | error e =>
      simp only [hd]
      exact ⟨_, rfl⟩
    | ok d =>
      rw [FileStore.draft?_eq_some_iff.2 ⟨s, hr, hd⟩] at h
      cases h

/-- The arguments of a command that sets a field of a draft: the name of the field, its new value,
and whether that is the state of a checkbox. -/
structure FieldChange where
  field : String
  value : String
  checkbox : Bool

namespace FieldChange

variable {store : FileStore} {path : String} {c : FieldChange} {d d' : Draft}

/-- What the command reports on a store of files. -/
def run (c : FieldChange) (path : String) (store : FileStore) : Report :=
  Command.run store (.set path c.field c.value c.checkbox)

/-- The new value of the field. -/
def newValue (c : FieldChange) : Setting :=
  if c.checkbox then .flag (c.value == "true") else .text c.value

/-- The change of a control that the command stands for. -/
def event (c : FieldChange) : ControlEvent :=
  if c.checkbox then .ofCheckbox c.field (c.value == "true") else .ofText c.field c.value

/-- A command fits a draft if it names a field, if the value of a checkbox is one of two words, and
if the draft accepts the edit. -/
def Fits (c : FieldChange) (d : Draft) : Prop :=
  ∃ f, DraftField.ofDotted c.field = .ok f ∧
    (c.checkbox = true → c.value = "true" ∨ c.value = "false") ∧
      (d.apply ⟨f, c.newValue⟩).isOk = true

/-! ### One command -/

theorem event_edit (c : FieldChange) :
    c.event.edit = DraftField.ofDotted c.field >>= fun f => pure ⟨f, c.newValue⟩ := by
  obtain ⟨field, value, checkbox⟩ := c
  cases checkbox <;> rfl

theorem applyEvent_eq_ok_iff : d.applyEvent c.event = .ok d' ↔
    ∃ f, DraftField.ofDotted c.field = .ok f ∧ d.apply ⟨f, c.newValue⟩ = .ok d' := by
  rw [Draft.applyEvent, event_edit, bind_assoc, bind_eq_ok_iff]
  simp only [pure_bind]

theorem eventOf_eq_ok_iff {e : ControlEvent} :
    Command.eventOf c.field c.value c.checkbox = .ok e ↔
      (c.checkbox = true → c.value = "true" ∨ c.value = "false") ∧ c.event = e := by
  unfold Command.eventOf event
  cases c.checkbox with
  | false => simp
  | true =>
    by_cases ht : c.value = "true"
    · simp [ht]
    · by_cases hf : c.value = "false" <;> simp [ht, hf]

/-- A command fits a draft exactly if it stands for an event that the draft accepts. -/
theorem fits_iff : c.Fits d ↔ ∃ e d', Command.eventOf c.field c.value c.checkbox = .ok e ∧
    d.applyEvent e = .ok d' := by
  constructor
  · rintro ⟨f, hf, hvalue, hd⟩
    obtain ⟨d', hd'⟩ := isOk_iff.1 hd
    exact ⟨c.event, d', eventOf_eq_ok_iff.2 ⟨hvalue, rfl⟩, applyEvent_eq_ok_iff.2 ⟨f, hf, hd'⟩⟩
  · rintro ⟨e, d', he, hd'⟩
    obtain ⟨hvalue, rfl⟩ := eventOf_eq_ok_iff.1 he
    obtain ⟨f, hf, hd⟩ := applyEvent_eq_ok_iff.1 hd'
    exact ⟨f, hf, hvalue, isOk_iff.2 ⟨d', hd⟩⟩

/-- How the command ends: it is refused and leaves all files alone, or the draft that was edited is
written over the one that was read. -/
inductive Sets (path : String) (store : FileStore) (c : FieldChange) : Report → Prop
  | refused {r : Report} {f : Failure} (failed : r.failure = some f) (kept : r.files = store)
      (unfit : ¬ ∃ d, store.draft? path = some d ∧ c.Fits d) : Sets path store c r
  | edited {r : Report} {d d' : Draft} (done : r.failure = none)
      (found : store.draft? path = some d) (fit : c.Fits d)
      (accepted : d.applyEvent c.event = .ok d')
      (read : d'.json.ReadsBack → r.files.draft? path = some d') : Sets path store c r

theorem sets_run (c : FieldChange) (path : String) (store : FileStore) :
    Sets path store c (c.run path store) := by
  show Sets path store c (Command.setField store path c.field c.value c.checkbox)
  unfold Command.setField
  cases hfound : store.draft? path with
  | none =>
    obtain ⟨f, hf⟩ := FileHost.load_of_draft?_eq_none hfound
    rw [hf]
    exact .refused rfl rfl (by simp [hfound])
  | some d =>
    obtain ⟨s, hr, hd⟩ := FileStore.draft?_eq_some_iff.1 hfound
    rw [FileHost.load_of_read hr hd]
    have hfits : (∃ d, store.draft? path = some d ∧ c.Fits d) ↔ c.Fits d := by simp [hfound]
    cases he : Command.eventOf c.field c.value c.checkbox with
    | error f =>
      refine .refused rfl rfl ?_
      rw [hfits, fits_iff]
      simp [he]
    | ok e =>
      cases ha : d.applyEvent e with
      | error x =>
        simp only [FileHost.opened, ha]
        refine .refused rfl rfl ?_
        rw [hfits, fits_iff]
        simp [he, ha]
      | ok d' =>
        obtain ⟨l, hl, hdev⟩ := FileStore.file_of_draft? hfound
        obtain ⟨after, hwrite, hwritten⟩ :=
          FileStore.written_of_locate hl hdev d'.json.pretty
        simp only [FileHost.opened, ha, FileHost.save, FileHost.write, hwrite]
        obtain ⟨-, rfl⟩ := eventOf_eq_ok_iff.1 he
        exact .edited rfl hfound (fits_iff.2 ⟨_, _, he, ha⟩) ha fun hback =>
          FileStore.draft?_of_written hback hdev hwritten

/-! ### Any number of commands -/

/-- The files behind a sequence of commands on one draft. -/
def runAll (path : String) (store : FileStore) (cs : List FieldChange) : FileStore :=
  cs.foldl (fun files c => (c.run path files).files) store

/-- The events for which those commands of a sequence stand that succeed. -/
def done (path : String) : FileStore → List FieldChange → List ControlEvent
  | _, [] => []
  | store, c :: cs =>
    let r := c.run path store
    (if r.failure.isNone then [c.event] else []) ++ done path r.files cs

/-- The drafts behind the events of a sequence, up to the first event that is rejected. -/
def stages : Draft → List ControlEvent → List Draft
  | _, [] => []
  | d, e :: es =>
    match d.applyEvent e with
    | .ok d' => d' :: stages d' es
    | .error _ => []

/-- **The file follows the draft in memory.** -/
theorem runAll_draft? {cs : List FieldChange} (hd : store.draft? path = some d)
    (hr : ∀ d' ∈ stages d (done path store cs), d'.json.ReadsBack) :
    ∃ d', (done path store cs).foldlM Draft.applyEvent d = .ok d' ∧
      (runAll path store cs).draft? path = some d' := by
  -- along the commands, the file holds the draft that is in memory
  induction cs generalizing store d with
  | nil => exact ⟨d, rfl, hd⟩
  | cons c cs ih =>
    rw [runAll, List.foldl_cons, ← runAll]
    have hs := sets_run c path store
    unfold done at hr ⊢
    generalize c.run path store = r at hs hr ⊢
    cases hs with
    | refused failed kept unfit =>
      simp only [failed, Option.isNone_some, Bool.false_eq_true, if_false, List.nil_append,
        kept] at hr ⊢
      exact ih hd hr
    | @edited d₀ d₁ succeeded found fit accepted read =>
      cases hd.symm.trans found
      simp only [succeeded, Option.isNone_none, if_true, List.singleton_append, stages, accepted,
        List.forall_mem_cons] at hr
      obtain ⟨d', hfold, hd'⟩ := ih (read hr.1) hr.2
      refine ⟨d', ?_, hd'⟩
      simp only [succeeded, Option.isNone_none, if_true, List.singleton_append, List.foldlM_cons,
        accepted]
      exact hfold

/-- **Setting fields in a file refines editing a draft in memory.** A command succeeds exactly if
the file holds a draft that it fits; then the file holds the draft that the event of the command
leads to, and otherwise all files stay as they were. So a sequence of commands leads to the draft
behind the events of those that succeed, provided that the drafts on the way can be read back. -/
theorem refines (path : String) (store : FileStore) :
    (∀ c : FieldChange, (c.run path store).failure = none ↔
      ∃ d, store.draft? path = some d ∧ c.Fits d) ∧
    (∀ (c : FieldChange) (d : Draft), store.draft? path = some d →
      (c.run path store).failure = none → ∃ d', d.applyEvent c.event = .ok d' ∧
        (d'.json.ReadsBack → (c.run path store).files.draft? path = some d')) ∧
    (∀ c : FieldChange, (c.run path store).failure ≠ none → (c.run path store).files = store) ∧
    ∀ (cs : List FieldChange) (d : Draft), store.draft? path = some d →
      (∀ d' ∈ stages d (done path store cs), d'.json.ReadsBack) →
        ∃ d', (done path store cs).foldlM Draft.applyEvent d = .ok d' ∧
          (runAll path store cs).draft? path = some d' := by
  refine ⟨fun c => ?_, fun c d hd hs => ?_, fun c hf => ?_, fun cs d => runAll_draft?⟩
  · cases sets_run c path store with
    | refused failed kept unfit => simp [failed, unfit]
    | edited succeeded found fit => exact ⟨fun _ => ⟨_, found, fit⟩, fun _ => succeeded⟩
  · cases sets_run c path store with
    | refused failed =>
      rw [failed] at hs
      cases hs
    | edited succeeded found fit accepted read =>
      cases hd.symm.trans found
      exact ⟨_, accepted, read⟩
  · cases sets_run c path store with
    | refused failed kept => exact kept
    | edited succeeded => exact absurd succeeded hf

/-- The draft of a tool, with a name and switched on or off. -/
def fetchDraft (name : String) (active : Bool) : Draft :=
  ⟨name, "", some .apiCall, .empty, "", active, []⟩

/-- A store with the draft of a tool. -/
def draftFiles : FileStore :=
  .ofFiles [("fetch.json", .text (fetchDraft "Fetch" false).json.pretty)]

/-- Commands that rename a tool and switch it on; the second and the third fail. -/
def switching : List FieldChange :=
  [⟨"name", "Get", false⟩, ⟨"is_active", "yes", true⟩, ⟨"config.", "1", false⟩,
    ⟨"is_active", "true", true⟩]

/-- The name and the flag are set in the file. -/
theorem refines_switchedOn : (runAll "fetch.json" draftFiles switching).draft? "fetch.json" =
    some (fetchDraft "Get" true) := by
  have hd : draftFiles.draft? "fetch.json" = some (fetchDraft "Fetch" false) :=
    FileStore.draft?_eq_some_iff.2 ⟨_, by rfl, Draft.decode_pretty (FileHost.fetched_readsBack "")⟩
  have hback : (fetchDraft "Get" false).json.ReadsBack ∧ (fetchDraft "Get" true).json.ReadsBack := by
    unfold Json.ReadsBack
    exact ⟨by cbv, by cbv⟩
  have hdone : done "fetch.json" draftFiles switching =
      [.ofText "name" "Get", .ofCheckbox "is_active" true] := by decide +kernel
  have hr : ∀ d' ∈ stages (fetchDraft "Fetch" false) (done "fetch.json" draftFiles switching),
      d'.json.ReadsBack := by
    rw [hdone]
    exact List.forall_mem_cons.2 ⟨hback.1, List.forall_mem_singleton.2 hback.2⟩
  obtain ⟨d', hfold, hd'⟩ := (refines "fetch.json" draftFiles).2.2.2 switching _ hd hr
  rw [hdone] at hfold
  cases hfold
  exact hd'

end FieldChange

end ToolAuthoring
