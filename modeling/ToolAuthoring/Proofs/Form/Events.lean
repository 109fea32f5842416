import ToolAuthoring.Proofs.Draft.Edits
import ToolAuthoring.Proofs.Form.Addresses

/-!
# Two ways from a form to a draft

A new text of an input reaches a draft in two ways.  The form turns it into an update of the input's
key, which is an edit of the setting with that key; or the control reports it under the input's path,
and the path is read as the name of a field.  Both ways make the same edit, since the names of
fields are read back whatever the key of a setting is: a key can contain dots, begin like a path or
be the name of another field.  Only the empty key has no name.

* `DraftField.ofDotted_eq_ok_iff`: how names are read back.
* `ControlEvent.edit_of_text`: the edit that a reported text asks for.
* `ShownForm.RoutesMeet`: the two ways meet, and `ShownForm.routesMeet_of_under`: so they do in every
  form of settings.
* `Form.routes_meet`: **an edit of an input and a report of it make the same edit of a draft**.
-/

namespace ToolAuthoring

/-- A control that reports a text asks for an edit of the field that it names. -/
theorem ControlEvent.edit_of_text {name x : String} {control : ControlKind} {checked : Bool}
    (h : control ≠ .checkbox) : ControlEvent.edit ⟨name, control, x, checked⟩ =
      (DraftField.ofDotted name).map fun field => ⟨field, .text x⟩ := by
  rw [edit]
  cases control with
  | checkbox => exact absurd rfl h
  | text | textArea | select => cases DraftField.ofDotted name <;> rfl

/-- An event is applied as the edit that it asks for. -/
theorem Draft.applyEvent_of_edit {e : ControlEvent} {edit : DraftEdit} (h : e.edit = .ok edit)
    (d : Draft) : d.applyEvent e = d.apply edit := by
  rw [applyEvent, h]
  rfl

namespace ShownForm

variable {form : ShownForm} {i : ShownInput}

/-- An edit of an input under its key is accepted, and asks for the same edit of a draft as any
control but a checkbox that reports the new text under the input's path. An input with an empty key
has no name under which it can be reported. -/
structure RoutesMeet (form : ShownForm) : Prop where
  update : ∀ i ∈ form.inputs, ∀ x, form.edit i.key x = .ok ⟨i.key, x⟩
  event : ∀ i ∈ form.inputs, i.key ≠ "" → ∀ control x checked, control ≠ .checkbox →
    ControlEvent.edit ⟨i.path, control, x, checked⟩ = .ok (FormUpdate.edit ⟨i.key, x⟩)
  applied : ∀ i ∈ form.inputs, i.key ≠ "" → ∀ control x checked, control ≠ .checkbox →
    ∀ d : Draft, d.applyEvent ⟨i.path, control, x, checked⟩ = d.apply (FormUpdate.edit ⟨i.key, x⟩)
  nameless : ∀ i ∈ form.inputs, i.key = "" → ∀ control x checked, control ≠ .checkbox →
    ControlEvent.edit ⟨i.path, control, x, checked⟩ = .error (.unknownField i.path)

/-- Below the base path of settings, the path of an input is the name of the setting with its key. -/
theorem path_eq_dotted (h : form.Under "config") (hi : i ∈ form.inputs) :
    i.path = DraftField.dotted (.setting i.key) := by
  have hmark : "config" ++ "." = DraftField.settingMark := by decide
  rw [h i hi, hmark, DraftField.dotted]

theorem event_of_key (h : form.Under "config") (hi : i ∈ form.inputs) (hkey : i.key ≠ "")
    {control : ControlKind} (hcontrol : control ≠ .checkbox) (x : String) (checked : Bool) :
    ControlEvent.edit ⟨i.path, control, x, checked⟩ = .ok (FormUpdate.edit ⟨i.key, x⟩) := by
  rw [ControlEvent.edit_of_text hcontrol, path_eq_dotted h hi, DraftField.ofDotted_setting hkey]
  rfl

theorem routesMeet_of_under (h : form.Under "config") : form.RoutesMeet where
  update := fun i hi x => edit_eq_ok_iff.2 ⟨rfl, List.mem_map_of_mem hi⟩
  event := fun i hi hkey control x checked hcontrol => event_of_key h hi hkey hcontrol x checked
  applied := fun i hi hkey control x checked hcontrol =>
    Draft.applyEvent_of_edit (event_of_key h hi hkey hcontrol x checked)
  nameless := by
    intro i hi hkey control x checked hcontrol
    rw [ControlEvent.edit_of_text hcontrol, path_eq_dotted h hi, hkey]
    rfl

end ShownForm

/-- **An edit of an input and a report of it make the same edit of a draft.** The name of a field is
the only one that is read as the field, and every field is read back from its name but the setting
with the empty key. So in the form of any sheet, with any settings, the update that an edit makes is
the edit that a text control asks for under the path of the same input. -/
theorem Form.routes_meet :
    (∀ name field, DraftField.ofDotted name = .ok field → field.dotted = name) ∧
      (∀ field, field ≠ .setting "" → DraftField.ofDotted field.dotted = .ok field) ∧
        (∀ (sheet : ConnectionSheet) (s : Settings), (sheet.form.render s).RoutesMeet) ∧
          ∀ (sheet : OperationSheet) (s : Settings), (sheet.form.render s).RoutesMeet := by
  refine ⟨fun name field h => ?_, fun field h => ?_, fun sheet s => ?_, fun sheet s => ?_⟩
  · exact (DraftField.ofDotted_eq_ok_iff.1 h).1
  · exact DraftField.ofDotted_eq_ok_iff.2 ⟨rfl, h⟩
  · exact ShownForm.routesMeet_of_under (sheet.under_render s)
  · exact ShownForm.routesMeet_of_under (sheet.under_renderAt "config" s)

/-- A key that begins like a path and ends like the name of a field is kept whole. -/
example : DraftField.ofDotted "config.config.name" = .ok (.setting "config.name") := by
  rfl

end ToolAuthoring
