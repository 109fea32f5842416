import ToolAuthoring.CommandLine.FileHost
import ToolAuthoring.Proofs.Draft.Decoding
import ToolAuthoring.Proofs.Files.Writing

/-!
# Saving a draft

A submission writes twice: the draft to its path, and then the preview, if there is one, to the path
with another extension.  The two paths lead into one folder, so they lead to one file only if they
are equal, and they are equal if the draft is to be written to a path that ends like the one of a
preview.  Then the preview takes the place of the draft, and still the submission succeeds.

* `Json.ReadsBack`: a value whose text is read as the value; `Draft.decode_pretty`: such a draft is
  decoded from its text.
* `FileHost.Saves`: the two writes of a submission; `FileHost.saves_of_returned`: it makes them.
* `FileHost.Stores`: what a submission should leave behind; `FileHost.stores_iff`: **it does exactly
  if the preview does not take the place of the draft**.
-/

namespace ToolAuthoring

/-- The indented text of a value is read as the value. -/
def Json.ReadsBack (j : Json) : Prop :=
  Document.read j.pretty = (j.document, .ok ())

theorem Draft.decode_pretty {d : Draft} (hr : d.json.ReadsBack) :
    Draft.decode.ofText d.json.pretty = .ok d := by
  simp only [Decoder.ofText, show Document.read _ = _ from hr, Draft.decode_json]
  rfl

namespace FileHost

variable {x : FileHost} {after : FileStore}

/-! ### The two writes -/

/-- The writes of a submission that succeeds, and the files behind them. -/
inductive Saves (x : FileHost) : FileStore → Prop
  | alone {after : FileStore} (absent : x.preview = none)
      (draft : x.files.write x.output x.draft.json.pretty = .ok after) : Saves x after
  | both {between after : FileStore} {code : String} (given : x.preview = some code)
      (draft : x.files.write x.output x.draft.json.pretty = .ok between)
      (preview : between.write x.previewOutput code = .ok after) : Saves x after

theorem files_of_write {y : FileHost} {path text : String} (hw : x.write path text = .ok y) :
    ∃ files, x.files.write path text = .ok files ∧ y = { x with files := files } := by
  unfold write at hw
  split at hw
  · rename_i files hf
    cases hw
    exact ⟨files, hf, rfl⟩
  · cases hw

theorem saves_of_returned (hs : x.submit.ending = .returned) : x.Saves x.submit.state.files := by
  unfold submit at hs ⊢
  cases hd : x.save with
  | error f =>
    rw [hd] at hs
    cases hs
  | ok y =>
    obtain ⟨between, hdraft, rfl⟩ := files_of_write hd
    cases hc : savePreview { x with files := between } with
    | error f =>
      simp only [hd, hc] at hs
      cases hs
    | ok z =>
      simp only [hc]
      cases hp : x.preview with
      | none =>
        simp only [savePreview, hp] at hc
        cases hc
        exact .alone hp hdraft
      | some code =>
        simp only [savePreview, hp] at hc
        obtain ⟨after, hpreview, rfl⟩ := files_of_write hc
        exact .both hp hdraft hpreview

/-- The draft and its preview lie at different places if their paths differ. -/
theorem output_eq_of_locate {l : Location} (hd : x.files.locate x.output = .ok l)
    (hp : x.files.locate x.previewOutput = .ok l) : x.previewOutput = x.output :=
  ((beside_replaceExtension (by decide)).eq_of_locate hd hp).symm

/-! ### What is stored -/

/-- The draft is found at its path and the preview, if there is one, at its own; no other file has
changed, and all paths lead where they led before. -/
structure Stores (x : FileHost) (after : FileStore) : Prop where
  draft : ∃ s, after.read x.output = .ok s ∧ Draft.decode.ofText s = .ok x.draft
  preview : ∀ code ∈ x.preview, after.read x.previewOutput = .ok code
  others : ∀ l, x.files.locate x.output ≠ .ok l →
    (x.preview.isSome → x.files.locate x.previewOutput ≠ .ok l) →
      after.files.get? l = x.files.files.get? l
  places : ∀ path l, after.locate path = .ok l ↔ x.files.locate path = .ok l

/-- A draft without a preview is stored. -/
theorem stores_of_alone (hdev : x.files.devices = []) (hr : x.draft.json.ReadsBack)
    (hp : x.preview = none) (hd : x.files.write x.output x.draft.json.pretty = .ok after) :
    x.Stores after := by
  obtain ⟨l, hw⟩ := FileStore.written hdev hd
  refine ⟨⟨_, hw.read hdev, Draft.decode_pretty hr⟩, ?_, ?_, hw.locate⟩
  · intro code hc
    rw [hp] at hc
    cases hc
  · intro m hm _
    refine hw.others m ?_
    rintro rfl
    exact hm hw.located

/-- A draft with a preview is stored exactly if the preview is not written over it; a preview that
is itself the text of the draft may be. -/
theorem stores_iff_of_both (hdev : x.files.devices = []) (hr : x.draft.json.ReadsBack)
    {between : FileStore} {code : String} (hp : x.preview = some code)
    (hd : x.files.write x.output x.draft.json.pretty = .ok between)
    (hc : between.write x.previewOutput code = .ok after) :
    x.Stores after ↔ (x.previewOutput = x.output → Draft.decode.ofText code = .ok x.draft) := by
  obtain ⟨l, hw⟩ := FileStore.written hdev hd
  have hdev' : between.devices = [] := hw.devices.trans hdev
  obtain ⟨m, hw'⟩ := FileStore.written hdev' hc
  have hm : x.files.locate x.previewOutput = .ok m := (hw.locate _ _).1 hw'.located
  have hread : after.read x.previewOutput = .ok code := hw'.read hdev'
  constructor
  · -- what is read at the one path is the preview, and it was to be the draft
    rintro ⟨⟨s, hs, hdec⟩, -⟩ heq
    rw [heq] at hread
    cases hread.symm.trans hs
    exact hdec
  · intro hover
    refine ⟨?_, ?_, ?_, fun path n => (hw'.locate path n).trans (hw.locate path n)⟩
    · by_cases heq : x.previewOutput = x.output
      · exact ⟨code, heq ▸ hread, hover heq⟩
      · have hlm : l ≠ m := by
          rintro rfl
          exact heq (output_eq_of_locate hw.located hm)
        have hl : after.locate x.output = .ok l :=
          (hw'.locate _ _).2 ((hw.locate _ _).2 hw.located)
        have hs : after.files.get? l = some (.text x.draft.json.pretty) :=
          (hw'.others l hlm).trans hw.content
        exact ⟨_, FileStore.read_of_get? (hw'.devices.trans hdev') hl hs, Draft.decode_pretty hr⟩
    · intro code' hcode
      rw [hp] at hcode
      cases hcode
      exact hread
    · intro n hout hprev
      have hnm : n ≠ m := by
        rintro rfl
        exact hprev (by rw [hp]; rfl) hm
      have hnl : n ≠ l := by
        rintro rfl
        exact hout hw.located
      exact (hw'.others n hnm).trans (hw.others n hnl)

/-- **A submission stores the draft and the preview exactly if the preview does not take the place
of the draft.** -/
theorem stores_iff (hdev : x.files.devices = []) (hr : x.draft.json.ReadsBack)
    (hs : x.submit.ending = .returned) : x.Stores x.submit.state.files ↔
      ∀ code ∈ x.preview, x.previewOutput = x.output →
        Draft.decode.ofText code = .ok x.draft := by
  cases saves_of_returned hs with
  | alone hp hd =>
    have hstores := stores_of_alone hdev hr hp hd
    simp [hp, hstores]
  | both hp hd hc =>
    rw [stores_iff_of_both hdev hr hp hd hc, hp]
    simp

/-- A host that holds the draft of a tool and its preview, and writes to a path in an empty store. -/
def fetched (output : String) : FileHost :=
  ⟨⟨"Fetch", "", some .apiCall, .empty, "", false, []⟩, some "pass", none, output, false, .empty⟩

theorem fetched_readsBack (output : String) : (fetched output).draft.json.ReadsBack := by
  unfold Json.ReadsBack
  cbv

/-- At a path that does not end like the one of a preview both are stored. -/
theorem stores_fetched : (fetched "out.json").submit.ending = .returned ∧
    (fetched "out.json").Stores (fetched "out.json").submit.state.files := by
  have hs : (fetched "out.json").submit.ending = .returned := by rfl
  have hne : (fetched "out.json").previewOutput ≠ (fetched "out.json").output := by decide
  exact ⟨hs, (stores_iff rfl (fetched_readsBack _) hs).2 fun _ _ heq => absurd heq hne⟩

/-- At a path that does, the draft is lost: its file holds the preview, which is no draft. -/
theorem not_stores_fetched : (fetched "out.preview").draft.json.ReadsBack ∧
    (fetched "out.preview").submit.ending = .returned ∧
      (fetched "out.preview").submit.state.files.read "out.preview" = .ok "pass" ∧
        ¬ (fetched "out.preview").Stores (fetched "out.preview").submit.state.files := by
  have hread : (fetched "out.preview").submit.state.files.read "out.preview" = .ok "pass" := by
    rfl
  have hnot : (Draft.decode.ofText "pass").toOption.isNone = true := by decide +kernel
  refine ⟨fetched_readsBack _, by rfl, hread, ?_⟩
  rintro ⟨⟨s, hs, hd⟩, -⟩
  cases hread.symm.trans hs
  rw [hd] at hnot
  cases hnot

end FileHost

end ToolAuthoring
