import ToolAuthoring.Form.NodeForm
import ToolAuthoring.Proofs.Draft.SettingTexts
import ToolAuthoring.Proofs.Sheet.FirstFields

/-!
# What a form shows for a node

Before a form is shown for a node, each field of the sheet is filled with its default where nothing
is stored.  Operations share fields, and a key is filled once, with the default of the field that
comes first.  This is not seen in the form, since the fields of a sheet that share a key have one
default.

* `OperationSheet.Coherent`: the fields keep off the key of the chosen operation, and those that
  share a key share a default; `Integration.operations_coherent`: so it is in the sheet of every
  integration.
* `NodeForm.get?_foldl_fillField`: what a key holds behind the filling of its fields.
* `NodeForm.textOr_filled`: to a field the filled settings are the stored ones, so that
  `NodeForm.render_eq_renderAt`: filling is not seen in the form.
* `NodeForm.render_eq`: **a form shows the stored texts and the defaults of the fields shown**.
-/

namespace ToolAuthoring

open OperationSheet (selectorKey)

/-! ### Sheets -/

namespace OperationSheet

/-- The fields of a sheet keep off the key of the chosen operation, and those that share a key share
a default. -/
structure Coherent (sheet : OperationSheet) : Prop where
  apart : ∀ f ∈ sheet.everyField, f.key ≠ selectorKey
  agree : ∀ f ∈ sheet.everyField, ∀ g ∈ sheet.everyField, f.key = g.key → f.default = g.default

variable {sheet : OperationSheet} {f : FormField}

theorem mem_everyField_of_fieldsOf {operation : String} (h : f ∈ sheet.fieldsOf operation) :
    f ∈ sheet.everyField := by
  unfold fieldsOf at h
  split at h
  · rename_i op hop
    exact List.mem_flatMap.2 ⟨op, List.mem_of_find?_eq_some hop, h⟩
  · cases h

/-- A form is the same for settings with the same text for the chosen operation and the same texts
for the fields of the sheet. -/
theorem renderAt_congr {s s' : Settings} (base : String)
    (hselector : (s.text? selectorKey).getD "" = (s'.text? selectorKey).getD "")
    (hfields : ∀ f ∈ sheet.everyField, s.textOr f.key f.default = s'.textOr f.key f.default) :
    sheet.renderAt base s = sheet.renderAt base s' := by
  have hinputs : (sheet.fieldsOf ((s'.text? selectorKey).getD "")).map
        (fun f => ShownInput.ofField f base (s.textOr f.key f.default)) =
      (sheet.fieldsOf ((s'.text? selectorKey).getD "")).map
        fun f => ShownInput.ofField f base (s'.textOr f.key f.default) :=
    List.map_congr_left fun f hf =>
      congrArg (ShownInput.ofField f base) (hfields f (mem_everyField_of_fieldsOf hf))
  rw [renderAt, renderAt, hselector, hinputs]

end OperationSheet

theorem Integration.operations_coherent (i : Integration) : i.operations.Coherent := by
  cases i <;> exact ⟨by decide +kernel, by decide +kernel⟩

/-! ### Filling -/

namespace NodeForm

variable {s : Settings} {fs : List FormField} {key : String}

theorem get?_foldl_fillField_of_ne (h : ∀ f ∈ fs, f.key ≠ key) :
    (fs.foldl fillField s).get? key = s.get? key := by
  induction fs generalizing s with
  | nil => rfl
  | cons f fs ih =>
    obtain ⟨hf, hfs⟩ := List.forall_mem_cons.1 h
    rw [List.foldl_cons, ih hfs, fillField, KeyMap.get?_insert, if_neg hf.symm]

/-- Filling in a default is not seen where that default would be shown. -/
theorem textOr_fillField {f : FormField} {default : String}
    (h : f.key = key → f.default = default) :
    (fillField s f).textOr key default = s.textOr key default :=
  Settings.textOr_insert_read fun hkey => h hkey.symm

theorem textOr_foldl_fillField {default : String}
    (h : ∀ f ∈ fs, f.key = key → f.default = default) :
    (fs.foldl fillField s).textOr key default = s.textOr key default := by
  induction fs generalizing s with
  | nil => rfl
  | cons f fs ih =>
    obtain ⟨hf, hfs⟩ := List.forall_mem_cons.1 h
    rw [List.foldl_cons, ih hfs, textOr_fillField hf]

/-- Each field that is filled holds what would be shown for it. -/
theorem get?_foldl_fillField {default : String} (h : ∀ f ∈ fs, f.key = key → f.default = default)
    (hkey : ∃ f ∈ fs, f.key = key) :
    (fs.foldl fillField s).get? key = some (.text (s.textOr key default)) := by
  induction fs generalizing s with
  | nil => simp at hkey
  | cons f fs ih =>
    obtain ⟨hf, hfs⟩ := List.forall_mem_cons.1 h
    rw [List.foldl_cons]
    by_cases hlater : ∃ g ∈ fs, g.key = key
    · rw [ih hfs hlater, textOr_fillField hf]
    · obtain rfl : f.key = key := by
        obtain ⟨g, hg, hgkey⟩ := hkey
        rcases List.mem_cons.1 hg with rfl | hg
        · exact hgkey
        · exact absurd ⟨g, hg, hgkey⟩ hlater
      rw [get?_foldl_fillField_of_ne fun g hg hgkey => hlater ⟨g, hg, hgkey⟩, fillField,
        KeyMap.get?_insert_self, hf rfl]

variable (form : NodeForm) (n : FlowNode)

theorem get?_stagedSettings (key : String) : (form.stagedSettings n).get? key =
    (n.stagedValue? form.integration key).map .text := by
  rw [stagedSettings, Settings.get?_ofTexts, FlowNode.stagedValue?]
  cases n.stagedFor form.integration <;> rfl

theorem text?_stagedSettings (key : String) :
    (form.stagedSettings n).text? key = n.stagedValue? form.integration key := by
  rw [Settings.text?, get?_stagedSettings]
  cases n.stagedValue? form.integration key <;> rfl

theorem textOr_stagedSettings (key default : String) : (form.stagedSettings n).textOr key default =
    ((n.stagedValue? form.integration key).filter (· != "")).getD default := by
  rw [Settings.textOr_eq, text?_stagedSettings]

theorem sheet_coherent : form.sheet.Coherent :=
  form.integration.operations_coherent

theorem get?_filled_selector : (form.filled n).get? selectorKey =
    some (.text ((n.stagedValue? form.integration selectorKey).getD "")) := by
  have hfields : (form.sheet.allFields.foldl fillField (form.stagedSettings n)).get? selectorKey =
      (n.stagedValue? form.integration selectorKey).map .text := by
    rw [get?_foldl_fillField_of_ne fun f hf =>
      form.sheet_coherent.apart f (OperationSheet.mem_everyField_of_allFields hf),
      get?_stagedSettings]
  simp only [filled, KeyMap.contains, hfields, Option.isSome_map]
  cases hstored : n.stagedValue? form.integration selectorKey with
  | none => exact KeyMap.get?_insert_self _ _ _
  | some x => rw [if_pos Option.isSome_some, hfields, hstored, Option.map_some, Option.getD_some]

theorem get?_filled_of_ne (hkey : key ≠ selectorKey) : (form.filled n).get? key =
    (form.sheet.allFields.foldl fillField (form.stagedSettings n)).get? key := by
  simp only [filled]
  split
  · rfl
  · exact KeyMap.get?_insert_of_ne _ hkey _

theorem text?_filled_selector :
    ((form.filled n).text? selectorKey).getD "" =
      ((form.stagedSettings n).text? selectorKey).getD "" := by
  rw [Settings.text?, get?_filled_selector, text?_stagedSettings]
  rfl

/-- To a field of the sheet the filled settings are the stored ones. -/
theorem textOr_filled {f : FormField} (hf : f ∈ form.sheet.everyField) :
    (form.filled n).textOr f.key f.default = (form.stagedSettings n).textOr f.key f.default := by
  rw [Settings.textOr_of_get? (form.get?_filled_of_ne n (form.sheet_coherent.apart f hf))]
  exact textOr_foldl_fillField fun g hg =>
    form.sheet_coherent.agree g (OperationSheet.mem_everyField_of_allFields hg) f hf

/-- **Filling is not seen in the form**: it shows what it would show of the stored settings. -/
theorem render_eq_renderAt : form.render n =
    form.sheet.renderAt form.base (form.stagedSettings n) :=
  OperationSheet.renderAt_congr form.base (form.text?_filled_selector n)
    fun _ hf => form.textOr_filled n hf

/-- The operation that is stored on a node for the integration of the form. -/
def operation : String :=
  (n.stagedValue? form.integration selectorKey).getD ""

/-- **A form shows what is stored on a node**: the chosen operation, and its fields with their
stored texts or, where none or the empty one is stored, their defaults. -/
theorem render_eq : form.render n =
    { title := form.sheet.title
      notice := none
      sections := [{
        title := none
        inputs := form.sheet.selector form.base (form.operation n) ::
          (form.sheet.fieldsOf (form.operation n)).map fun f =>
            .ofField f form.base
              (((n.stagedValue? form.integration f.key).filter (· != "")).getD f.default) }] } := by
  rw [render_eq_renderAt]
  simp only [OperationSheet.renderAt, text?_stagedSettings, textOr_stagedSettings, operation]

end NodeForm

end ToolAuthoring
