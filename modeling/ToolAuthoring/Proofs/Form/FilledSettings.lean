import ToolAuthoring.Proofs.Form.Filling

/-!
# The filled settings of a node

Filling completes what is stored on a node: nothing that is stored is lost, each field of the sheet
gets a text, and so does the selector of the operation.  The filled settings are texts throughout,
so a node can store them in turn, and then there is nothing left to fill.

* `NodeForm.Completes`: what the filled settings hold under each key, and
  `NodeForm.completes_filled`: that they do.
* `NodeForm.Completes.unique`: no other settings do.
* `NodeForm.filled_settled`: **filling loses nothing, need not be done twice, and is not seen in the
  form**.
-/

namespace ToolAuthoring.NodeForm

open OperationSheet (selectorKey)

variable {form : NodeForm} {n n' : FlowNode} {s s' : Settings}

/-- The settings hold what is stored on a node, with nothing missing: for a field of the sheet the
stored text, or its default where none or the empty one is stored; for the selector the stored text,
or the empty one; and what is stored under other keys. -/
structure Completes (form : NodeForm) (n : FlowNode) (s : Settings) : Prop where
  field : ∀ f ∈ form.sheet.everyField, s.get? f.key =
    some (.text (((n.stagedValue? form.integration f.key).filter (· != "")).getD f.default))
  selector : s.get? selectorKey =
    some (.text ((n.stagedValue? form.integration selectorKey).getD ""))
  other : ∀ key, key ≠ selectorKey → (∀ f ∈ form.sheet.everyField, f.key ≠ key) →
    s.get? key = (n.stagedValue? form.integration key).map .text

/-- A key is that of the selector or of a field, or it has no place in the form. -/
theorem key_cases (form : NodeForm) (key : String) : key = selectorKey ∨
    (∃ f ∈ form.sheet.everyField, f.key = key) ∨
      key ≠ selectorKey ∧ ∀ f ∈ form.sheet.everyField, f.key ≠ key := by
  by_cases hselector : key = selectorKey
  · exact .inl hselector
  · by_cases hfield : ∃ f ∈ form.sheet.everyField, f.key = key
    · exact .inr (.inl hfield)
    · exact .inr (.inr ⟨hselector, fun f hf hkey => hfield ⟨f, hf, hkey⟩⟩)

theorem completes_filled (form : NodeForm) (n : FlowNode) :
    form.Completes n (form.filled n) where
  field := by
    intro f hf
    have hagree : ∀ g ∈ form.sheet.allFields, g.key = f.key → g.default = f.default :=
      fun g hg => form.sheet_coherent.agree g (OperationSheet.mem_everyField_of_allFields hg) f hf
    rw [form.get?_filled_of_ne n (form.sheet_coherent.apart f hf), ← textOr_stagedSettings]
    exact get?_foldl_fillField hagree (OperationSheet.exists_key_allFields.2 ⟨f, hf, rfl⟩)
  selector := form.get?_filled_selector n
  other := by
    intro key hselector hfields
    rw [form.get?_filled_of_ne n hselector, get?_foldl_fillField_of_ne fun f hf =>
      hfields f (OperationSheet.mem_everyField_of_allFields hf), get?_stagedSettings]

namespace Completes

theorem unique (h : form.Completes n s) (h' : form.Completes n s') : s = s' := by
  refine KeyMap.ext_get? fun key => ?_
  rcases form.key_cases key with rfl | ⟨f, hf, rfl⟩ | ⟨hselector, hfields⟩
  · rw [h.selector, h'.selector]
  · rw [h.field f hf, h'.field f hf]
  · rw [h.other key hselector hfields, h'.other key hselector hfields]

/-- No key is lost, and none comes in but those of the form. -/
theorem contains_iff (h : form.Completes n s) (key : String) :
    s.contains key ↔ (n.stagedValue? form.integration key).isSome ∨
      (∃ f ∈ form.sheet.everyField, f.key = key) ∨ key = selectorKey := by
  rw [KeyMap.contains]
  rcases form.key_cases key with rfl | ⟨f, hf, rfl⟩ | ⟨hselector, hfields⟩
  · simp [h.selector]
  · rw [h.field f hf]
    exact iff_of_true rfl (.inr (.inl ⟨f, hf, rfl⟩))
  · have hfield : ¬ ∃ f ∈ form.sheet.everyField, f.key = key := by
      rintro ⟨f, hf, hkey⟩
      exact hfields f hf hkey
    rw [h.other key hselector hfields, Option.isSome_map, or_iff_left fun hkey =>
      hkey.elim hfield hselector]

/-- There are only texts, so a node can store them. -/
theorem exists_texts (h : form.Completes n s) : ∃ values, s = .ofTexts values := by
  refine Settings.exists_ofTexts fun key v hv => ?_
  rcases form.key_cases key with rfl | ⟨f, hf, rfl⟩ | ⟨hselector, hfields⟩
  · exact ⟨_, Option.some.inj (hv.symm.trans h.selector)⟩
  · exact ⟨_, Option.some.inj (hv.symm.trans (h.field f hf))⟩
  · rw [h.other key hselector hfields] at hv
    obtain ⟨x, -, hx⟩ := Option.map_eq_some_iff.1 hv
    exact ⟨x, hx.symm⟩

/-- On a node that stores them nothing is missing. -/
theorem of_stored {values : StagedValues} (h : form.Completes n (.ofTexts values))
    (hstored : n'.stagedFor form.integration = some values) :
    form.Completes n' (.ofTexts values) := by
  have hvalue (key : String) : n'.stagedValue? form.integration key = values.get? key := by
    rw [FlowNode.stagedValue?, hstored, Option.bind_some]
  have hget (key : String) : (Settings.ofTexts values).get? key =
      (n'.stagedValue? form.integration key).map .text := by
    rw [hvalue, Settings.get?_ofTexts]
  constructor
  case field =>
    intro f hf
    -- what has been filled in is the default, unless it is not empty
    have hread := (form.stagedSettings n).textOr_eq_default_or f.key f.default
    rw [textOr_stagedSettings] at hread
    obtain ⟨x, hx, htext⟩ := Option.map_eq_some_iff.1 ((hget f.key).symm.trans (h.field f hf))
    rw [← Setting.text.inj htext] at hread
    rw [hget, hx, Option.map_some, Option.filter_some]
    rcases hread with rfl | hne
    · split <;> rfl
    · rw [if_pos (bne_iff_ne.2 hne), Option.getD_some]
  case selector =>
    obtain ⟨x, hx, -⟩ := Option.map_eq_some_iff.1 ((hget selectorKey).symm.trans h.selector)
    rw [hget, hx, Option.map_some, Option.getD_some]
  case other => exact fun key _ _ => hget key

end Completes

/-- **Filling loses nothing, need not be done twice, and is not seen in the form.** The filled
settings are the ones that complete what is stored, and have the keys that are stored, those of the
sheet and that of the selector; a node that stores them has nothing left to fill; and the form shows
what it would show of the stored settings themselves. -/
theorem filled_settled (form : NodeForm) (n : FlowNode) :
    (∀ s, form.filled n = s ↔ form.Completes n s) ∧
      (∀ key, (form.filled n).contains key ↔ (n.stagedValue? form.integration key).isSome ∨
        (∃ f ∈ form.sheet.everyField, f.key = key) ∨ key = selectorKey) ∧
      (∃ values, form.filled n = .ofTexts values ∧
        ∀ n' : FlowNode, n'.stagedFor form.integration = some values →
          form.filled n' = form.filled n) ∧
      form.render n =
        form.sheet.renderAt ("toolOperation." ++ form.integration.name) (form.stagedSettings n) := by
  have hfilled : form.Completes n (form.filled n) := form.completes_filled n
  refine ⟨fun s => ⟨?_, hfilled.unique⟩, hfilled.contains_iff, ?_, form.render_eq_renderAt n⟩
  · rintro rfl
    exact hfilled
  · obtain ⟨values, hvalues⟩ := hfilled.exists_texts
    refine ⟨values, hvalues, fun n' hstored => ?_⟩
    rw [hvalues] at hfilled ⊢
    exact (form.completes_filled n').unique (hfilled.of_stored hstored)

end ToolAuthoring.NodeForm
