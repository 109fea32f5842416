import ToolAuthoring.Proofs.Form.Connections

/-!
# Editing what a connection form shows

An edit stores a text under its key, and that text is in effect there, or the default if it is
empty.  Nothing else is changed by it: the inputs of the other keys keep their values, and of the
gates only those that look at the key of the edit can open or close.

* `ConnectionSheet.inEffect_insert`: the values in effect after an edit; `shows_insert_of_ne`,
  `shows_insert_of_gate`: the gates; `inputFor_insert`: the inputs.
* `ConnectionSheet.inEffect_putBack`: putting back values that are in effect changes none of them.
* `ConnectionSheet.edit_local`: **an edit has its local effect only, and putting back what a form
  shows has none**.
-/

namespace ToolAuthoring

/-- The updates that put back what a form shows. -/
def ShownForm.readings (form : ShownForm) : List FormUpdate :=
  form.inputs.map fun i => ⟨i.key, i.value⟩

namespace ConnectionSheet

variable {sheet : ConnectionSheet} {s : Settings} {f : ConnectionField} {k x : String}

/-- What comes into effect under a key when a text is stored there. -/
def entered (sheet : ConnectionSheet) (key x : String) : String :=
  if x = "" then sheet.defaultFor key else x

/-! ### One edit -/

theorem inEffect_insert (sheet : ConnectionSheet) (s : Settings) (k x j : String) :
    sheet.inEffect (s.insert k (.text x)) j =
      if j = k then sheet.entered k x else sheet.inEffect s j := by
  rw [inEffect, Settings.textOr_insert]
  by_cases hj : j = k
  · rw [if_pos hj, if_pos hj, entered, hj]
  · rw [if_neg hj, if_neg hj, inEffect]

theorem shows_insert_of_ne (h : ∀ gate, f.gate = some gate → gate.key ≠ k) :
    sheet.shows (s.insert k (.text x)) f = sheet.shows s f := by
  unfold shows
  cases hgate : f.gate with
  | none => rfl
  | some gate =>
    dsimp only
    rw [inEffect_insert, if_neg (h gate hgate)]

theorem shows_insert_of_gate {gate : Gate} (hgate : f.gate = some gate) (hkey : gate.key = k) :
    sheet.shows (s.insert k (.text x)) f ↔ sheet.entered k x ∈ gate.values := by
  simp only [shows, hgate]
  rw [inEffect_insert, if_pos hkey, List.contains_iff_mem]

theorem inputFor_insert (sheet : ConnectionSheet) (s : Settings) (k x : String)
    (f : ConnectionField) : sheet.inputFor (s.insert k (.text x)) f =
      if f.field.key = k then { sheet.inputFor s f with value := sheet.entered k x }
      else sheet.inputFor s f := by
  rw [inputFor, inEffect_insert]
  split <;> rfl

/-! ### Putting back what is shown -/

/-- Storing the value in effect leaves it in effect, and all others. -/
theorem inEffect_insert_inEffect (sheet : ConnectionSheet) (s : Settings) (k j : String) :
    sheet.inEffect (s.insert k (.text (sheet.inEffect s k))) j = sheet.inEffect s j :=
  Settings.textOr_insert_read fun hj => congrArg sheet.defaultFor hj.symm

theorem value_of_mem_readings {u : FormUpdate} (h : u ∈ (sheet.render s).readings) :
    u.value = sheet.inEffect s u.key := by
  obtain ⟨i, hi, rfl⟩ := List.mem_map.1 h
  obtain ⟨f, -, -, rfl⟩ := mem_inputs_render.1 hi
  rfl

/-- Updates that put back values in effect are all accepted, and no value in effect changes. -/
theorem inEffect_putBack {us : List FormUpdate} {d : Draft}
    (h : ∀ u ∈ us, u.value = sheet.inEffect d.settings u.key) :
    ∃ d', us.foldlM (fun d u => d.apply u.edit) d = .ok d' ∧
      ∀ key, sheet.inEffect d'.settings key = sheet.inEffect d.settings key := by
  induction us generalizing d with
  | nil => exact ⟨d, rfl, fun key => rfl⟩
  | cons u us ih =>
    obtain ⟨hu, hus⟩ := List.forall_mem_cons.1 h
    have hstep (key : String) : sheet.inEffect (d.settings.insert u.key (.text u.value)) key =
        sheet.inEffect d.settings key := by
      rw [hu, inEffect_insert_inEffect]
    -- what the later updates put back is still in effect after the first
    obtain ⟨d', hrun, heffect⟩ := ih (d := { d with
      settings := d.settings.insert u.key (.text u.value) }) fun v hv => by
        rw [hstep, hus v hv]
    exact ⟨d', hrun, fun key => (heffect key).trans (hstep key)⟩

/-- **An edit has its local effect only, and putting back what a form shows has none.** A field
whose gate does not look at the key of the edit is shown or not as before; one whose gate does is
shown if the entered value opens the gate; the inputs that are shown are as before, but for the
value of those with the key of the edit. The values that are shown can be put back in any order. -/
theorem edit_local (sheet : ConnectionSheet) (d : Draft) (k x : String) :
    (∃ d', d.apply (FormUpdate.edit ⟨k, x⟩) = .ok d' ∧
      (∀ f ∈ sheet.fields, (∀ gate, f.gate = some gate → gate.key ≠ k) →
        sheet.shows d'.settings f = sheet.shows d.settings f) ∧
      (∀ f ∈ sheet.fields, ∀ gate, f.gate = some gate → gate.key = k →
        (sheet.shows d'.settings f ↔ sheet.entered k x ∈ gate.values)) ∧
      (sheet.render d'.settings).inputs = (sheet.shownFields d'.settings).map fun f =>
        if f.field.key = k then { sheet.inputFor d.settings f with value := sheet.entered k x }
        else sheet.inputFor d.settings f) ∧
      ∀ us : List FormUpdate, us.Perm (sheet.render d.settings).readings →
        ∃ d', us.foldlM (fun d u => d.apply u.edit) d = .ok d' ∧
          sheet.render d'.settings = sheet.render d.settings ∧
          ∀ name, sheet.overview name d'.settings = sheet.overview name d.settings := by
  constructor
  · refine ⟨{ d with settings := d.settings.insert k (.text x) }, rfl,
      fun f _ => shows_insert_of_ne, fun f _ gate => shows_insert_of_gate, ?_⟩
    rw [inputs_render]
    exact List.map_congr_left fun f _ => sheet.inputFor_insert d.settings k x f
  · intro us hperm
    have hvalues : ∀ u ∈ us, u.value = sheet.inEffect d.settings u.key :=
      fun u hu => value_of_mem_readings (hperm.mem_iff.1 hu)
    obtain ⟨d', hrun, heffect⟩ := inEffect_putBack hvalues
    exact ⟨d', hrun, render_congr heffect, fun name =>
      overview_congr name fun f _ _ => heffect f.field.key⟩

end ConnectionSheet

end ToolAuthoring
