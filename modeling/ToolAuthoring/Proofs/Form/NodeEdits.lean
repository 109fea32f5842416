import ToolAuthoring.Proofs.Form.Addresses
import ToolAuthoring.Proofs.Form.Filling
import ToolAuthoring.Proofs.Node.Sessions

/-!
# Editing what a form shows for a node

A form shows the selector of the operation and the fields of the stored one.  These are what can be
edited, the selector to one of its choices, and afterwards the form shows the new value.

* `NodeForm.Offers`: what the form offers, and `NodeForm.offers_iff`: the key is shown, and the node
  accepts the value.
* `NodeForm.edit_of_shown`, `NodeForm.edit_of_not_shown`: what becomes of an edit.
* `NodeForm.render_stage`, `NodeForm.render_stage_selector`: the form after a field and after the
  operation has been staged.
* `NodeForm.edit_settles`: **an edit is accepted if and only if the form offers it, and the form
  then shows it**.
-/

namespace ToolAuthoring

open OperationSheet (selectorKey)

/-- The form with another value in the inputs of a key. -/
def ShownForm.showing (form : ShownForm) (key value : String) : ShownForm :=
  { form with
    sections := form.sections.map fun s =>
      { s with
        inputs := s.inputs.map fun i => if i.key = key then { i with value := value } else i } }

theorem OperationSheet.mem_selectorChoices_iff {sheet : OperationSheet} {x : String} :
    x ∈ sheet.selectorChoices.map Choice.value ↔ x = "" ∨ (sheet.operation? x).isSome := by
  have hop : (sheet.operation? x).isSome ↔ ∃ op ∈ sheet.operations, op.value = x := by
    simp [operation?, List.find?_isSome]
  simp [selectorChoices, hop]

namespace NodeForm

variable {form : NodeForm} {n n' : FlowNode} {key x : String}

/-! ### What is offered -/

/-- The form shows the input that is edited: the selector with the value among its choices, or a
field of the stored operation. -/
def Offers (form : NodeForm) (n : FlowNode) (key x : String) : Prop :=
  (key = selectorKey ∧ ∃ selector, (form.render n).input? selectorKey = some selector ∧
      x ∈ selector.choices.map Choice.value) ∨
    ∃ f ∈ form.sheet.fieldsOf (form.operation n), f.key = key

theorem inputs_render (form : NodeForm) (n : FlowNode) : (form.render n).inputs =
    form.sheet.selector form.base (form.operation n) ::
      (form.sheet.fieldsOf (form.operation n)).map fun f => .ofField f form.base
        (((n.stagedValue? form.integration f.key).filter (· != "")).getD f.default) := by
  rw [render_eq, ShownForm.inputs, List.flatMap_singleton]

theorem input?_selector (form : NodeForm) (n : FlowNode) : (form.render n).input? selectorKey =
    some (form.sheet.selector form.base (form.operation n)) := by
  have hkey : ((form.sheet.selector form.base (form.operation n)).key == selectorKey) = true :=
    beq_self_eq_true selectorKey
  rw [ShownForm.input?, inputs_render]
  exact List.find?_cons_of_pos hkey

theorem isSome_input?_iff : ((form.render n).input? key).isSome ↔
    key = selectorKey ∨ ∃ f ∈ form.sheet.fieldsOf (form.operation n), f.key = key := by
  rw [ShownForm.isSome_input?_iff, render_eq_renderAt, OperationSheet.keys_renderAt,
    text?_stagedSettings, List.mem_cons, List.mem_map, operation]

theorem key_ne_selectorKey {operation : String} {f : FormField}
    (hf : f ∈ form.sheet.fieldsOf operation) : f.key ≠ selectorKey :=
  form.sheet_coherent.apart f (OperationSheet.mem_everyField_of_fieldsOf hf)

theorem fits_of_ne (h : key ≠ selectorKey) : NodeEdit.fits ⟨form.integration, ⟨key, x⟩⟩ := by
  simp [NodeEdit.fits, h]

theorem fits_selector_iff : NodeEdit.fits ⟨form.integration, ⟨selectorKey, x⟩⟩ ↔
    x ∈ form.sheet.selectorChoices.map Choice.value := by
  rw [OperationSheet.mem_selectorChoices_iff]
  simp [NodeEdit.fits, sheet]

/-- What is offered is shown, and its value is one that a node accepts. -/
theorem offers_iff : form.Offers n key x ↔
    ((form.render n).input? key).isSome ∧ NodeEdit.fits ⟨form.integration, ⟨key, x⟩⟩ := by
  rw [isSome_input?_iff]
  constructor
  · rintro (⟨rfl, selector, hselector, hx⟩ | ⟨f, hf, rfl⟩)
    · rw [input?_selector] at hselector
      cases hselector
      exact ⟨.inl rfl, fits_selector_iff.2 hx⟩
    · exact ⟨.inr ⟨f, hf, rfl⟩, fits_of_ne (key_ne_selectorKey hf)⟩
  · rintro ⟨rfl | hfield, hfits⟩
    · exact .inl ⟨rfl, _, form.input?_selector n, fits_selector_iff.1 hfits⟩
    · exact .inr hfield

/-! ### What becomes of an edit -/

theorem edit_of_shown (h : ((form.render n).input? key).isSome) (x : String) :
    form.edit n key x = form.apply n ⟨key, x⟩ := by
  obtain ⟨i, hi⟩ := Option.isSome_iff_exists.1 h
  rw [edit, ShownForm.edit, hi]
  rfl

theorem edit_of_not_shown (h : ¬ ((form.render n).input? key).isSome) (x : String) :
    form.edit n key x = .error (.notShown key) := by
  rw [edit, ShownForm.edit, Option.not_isSome_iff_eq_none.1 h]
  rfl

theorem edit_of_offers (h : form.Offers n key x) :
    form.edit n key x = .ok (n.stage form.integration key x) := by
  obtain ⟨hshown, hfits⟩ := offers_iff.1 h
  rw [edit_of_shown hshown]
  exact (n.apply_eq ⟨form.integration, ⟨key, x⟩⟩).trans (if_pos hfits)

theorem edit_of_not_offers (h : ¬ form.Offers n key x) : form.edit n key x =
    .error (if key = selectorKey then .unknownOperation form.integration x else .notShown key) := by
  by_cases hkey : key = selectorKey
  · -- the selector is shown, so it is the value that is not accepted
    have hshown : ((form.render n).input? key).isSome := isSome_input?_iff.2 (.inl hkey)
    have hfits : ¬ NodeEdit.fits ⟨form.integration, ⟨key, x⟩⟩ := fun hfits =>
      h (offers_iff.2 ⟨hshown, hfits⟩)
    rw [edit_of_shown hshown, if_pos hkey]
    exact (n.apply_eq ⟨form.integration, ⟨key, x⟩⟩).trans (if_neg hfits)
  · rw [if_neg hkey]
    exact edit_of_not_shown (fun hshown => h (offers_iff.2 ⟨hshown, fits_of_ne hkey⟩)) x

/-! ### What is shown afterwards -/

/-- After a text has been staged for a field, the form shows it there, or the default of the field
if it is empty. -/
theorem render_stage {f : FormField} (hf : f ∈ form.sheet.fieldsOf (form.operation n)) :
    form.render (n.stage form.integration f.key x) =
      (form.render n).showing f.key (if x = "" then f.default else x) := by
  have hoperation : form.operation (n.stage form.integration f.key x) = form.operation n := by
    rw [operation, FlowNode.stagedValue?_stage_of_ne _ _ _ (key_ne_selectorKey hf).symm, operation]
  rw [render_eq, render_eq, hoperation, ShownForm.showing]
  have hselector : (form.sheet.selector form.base (form.operation n)).key ≠ f.key :=
    (key_ne_selectorKey hf).symm
  simp only [List.map_cons, List.map_nil, if_neg hselector, List.map_map]
  congr 4
  refine List.map_congr_left fun g hg => ?_
  by_cases hkey : g.key = f.key
  · have hdefault : g.default = f.default :=
      form.sheet_coherent.agree g (OperationSheet.mem_everyField_of_fieldsOf hg) f
        (OperationSheet.mem_everyField_of_fieldsOf hf) hkey
    rw [hkey, FlowNode.stagedValue?_stage_self, hdefault]
    by_cases hx : x = "" <;> simp [Option.filter_some, hx, hkey, ShownInput.ofField]
  · rw [FlowNode.stagedValue?_stage_of_ne _ _ _ hkey]
    exact (if_neg hkey).symm

/-- After an operation has been staged, the form shows it in the selector, and its fields. -/
theorem render_stage_selector (form : NodeForm) (n : FlowNode) (x : String) :
    form.render (n.stage form.integration selectorKey x) =
      { title := form.sheet.title
        notice := none
        sections := [{
          title := none
          inputs := form.sheet.selector form.base x :: (form.sheet.fieldsOf x).map fun f =>
            .ofField f form.base
              (((n.stagedValue? form.integration f.key).filter (· != "")).getD f.default) }] } := by
  have hoperation : form.operation (n.stage form.integration selectorKey x) = x := by
    rw [operation, FlowNode.stagedValue?_stage_self, Option.getD_some]
  rw [render_eq, hoperation]
  congr 4
  refine List.map_congr_left fun f hf => ?_
  rw [FlowNode.stagedValue?_stage_of_ne _ _ _ (key_ne_selectorKey hf)]

/-- **An edit is accepted if and only if the form offers it, and the form then shows it.** The
choices of the selector are the empty text and the operations of the sheet.  After an edit of a
field the form is the same but for that field, and after a switch of the operation it has the fields
of the new one. -/
theorem edit_settles (form : NodeForm) (n : FlowNode) (key x : String) :
    (∀ selector, (form.render n).input? selectorKey = some selector →
        ∀ value, value ∈ selector.choices.map Choice.value ↔
          value = "" ∨ (form.sheet.operation? value).isSome) ∧
      (form.Offers n key x → form.edit n key x = .ok (n.stage form.integration key x)) ∧
      (¬ form.Offers n key x → form.edit n key x = .error
        (if key = selectorKey then .unknownOperation form.integration x else .notShown key)) ∧
      ∀ n', form.edit n key x = .ok n' →
        (key ≠ selectorKey → ∃ f ∈ form.sheet.fieldsOf (form.operation n), f.key = key ∧
          form.render n' = (form.render n).showing key (if x = "" then f.default else x)) ∧
        (key = selectorKey → form.render n' =
          { title := form.sheet.title
            notice := none
            sections := [{
              title := none
              inputs := form.sheet.selector form.base x :: (form.sheet.fieldsOf x).map fun f =>
                .ofField f form.base
                  (((n.stagedValue? form.integration f.key).filter (· != "")).getD
                    f.default) }] }) := by
  refine ⟨fun selector hselector value => ?_, edit_of_offers, edit_of_not_offers,
    fun n' hedit => ?_⟩
  · rw [input?_selector] at hselector
    cases hselector
    exact OperationSheet.mem_selectorChoices_iff
  have hoffers : form.Offers n key x := by
    by_contra hno
    rw [edit_of_not_offers hno] at hedit
    cases hedit
  rw [edit_of_offers hoffers] at hedit
  cases hedit
  constructor
  · intro hkey
    obtain ⟨f, hf, rfl⟩ := hoffers.resolve_left fun h => hkey h.1
    exact ⟨f, hf, rfl, render_stage hf⟩
  · rintro rfl
    exact form.render_stage_selector n x

end NodeForm

end ToolAuthoring
