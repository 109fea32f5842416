import ToolAuthoring.Draft.Edit

/-!
# What an edit changes

An accepted edit puts its value into its own field.  `Draft.Applies` lists the ways in which an edit
can be accepted, and `applies_of_apply` says that there are no others.

* `apply_kind_of_ne`, `apply_name_of_ne`: an edit of another field leaves kind and name alone.
* `apply_pick`: every kind can be picked.
* `DraftField.ofDotted_eq_ok_iff`: a field has one dotted name, and only an empty key has none.
-/

namespace ToolAuthoring

namespace DraftField

/-- The dotted name of a setting is read as the setting, unless its key is empty. -/
theorem ofDotted_setting {key : String} (h : key ≠ "") :
    ofDotted (dotted (.setting key)) = .ok (.setting key) := by
  have hne (s : String) (hs : ¬ settingMark.toList <+: s.toList) : dotted (.setting key) ≠ s := by
    rintro rfl
    exact hs (by simp [dotted])
  have hkey : key.toList ≠ [] := by simpa using h
  have hlist : (dotted (.setting key)).toList = settingMark.toList ++ key.toList :=
    String.toList_append
  unfold ofDotted
  rw [if_neg (hne _ (by decide)), if_neg (hne _ (by decide)), if_neg (hne _ (by decide)),
    if_neg (hne _ (by decide)), if_neg (hne _ (by decide)), hlist, List.drop_left]
  simp [hkey]

/-- A text is read as a field exactly if it is its dotted name, where no key is empty. -/
theorem ofDotted_eq_ok_iff {s : String} {f : DraftField} :
    ofDotted s = .ok f ↔ f.dotted = s ∧ f ≠ .setting "" := by
  constructor
  · intro h
    unfold ofDotted at h
    -- the fields that have a name of their own
    iterate 5
      split at h
      · rename_i hs
        cases h
        exact ⟨hs.symm, nofun⟩
    dsimp only at h
    split at h
    · rename_i hs
      cases h
      obtain ⟨hmark, hkey⟩ := Bool.and_eq_true_iff.1 hs
      obtain ⟨key, hs'⟩ := List.isPrefixOf_iff_prefix.1 hmark
      rw [← hs', List.drop_left] at hkey ⊢
      refine ⟨?_, fun hempty => ?_⟩
      · rw [dotted, ← String.toList_inj, ← hs', String.toList_append, String.toList_ofList]
      · have hnil : key = [] := by simpa using DraftField.setting.inj hempty
        simp [hnil] at hkey
    · cases h
  · rintro ⟨rfl, hf⟩
    cases f with
    | setting key => exact ofDotted_setting fun h => hf (h ▸ rfl)
    | _ => rfl

end DraftField

namespace Draft

/-- How an edit can be accepted. -/
inductive Applies (d : Draft) : DraftEdit → Draft → Prop
  | name (s : String) : Applies d ⟨.name, .text s⟩ { d with name := s }
  | description (s : String) : Applies d ⟨.description, .text s⟩ { d with description := s }
  | code (s : String) : Applies d ⟨.code, .text s⟩ { d with code := s }
  | cleared : Applies d ⟨.kind, .text ""⟩ { d with kind := none }
  | picked {s : String} {t : ToolKind} (hs : s ≠ "") (ht : ToolKind.ofName? s = some t) :
      Applies d ⟨.kind, .text s⟩ { d with kind := some t }
  | active (b : Bool) : Applies d ⟨.active, .flag b⟩ { d with active := b }
  | setting (key : String) (v : Setting) :
      Applies d ⟨.setting key, v⟩ { d with settings := d.settings.insert key v }

theorem applies_of_apply {d d' : Draft} {e : DraftEdit} (h : d.apply e = .ok d') :
    d.Applies e d' := by
  obtain ⟨field, value⟩ := e
  cases field with
  | setting key =>
    cases Except.ok.inj h
    exact .setting key value
  | name | description | code =>
    cases value with
    | flag b => cases h
    | text s =>
      cases Except.ok.inj h
      constructor
  | active =>
    cases value with
    | text s => cases h
    | flag b =>
      cases Except.ok.inj h
      exact .active b
  | kind =>
    cases value with
    | flag b => cases h
    | text s =>
      by_cases hs : s = ""
      · subst hs
        cases Except.ok.inj h
        exact .cleared
      · simp only [apply, if_neg hs, ToolKind.ofName] at h
        cases ht : ToolKind.ofName? s with
        | none =>
          rw [ht] at h
          cases h
        | some t =>
          rw [ht] at h
          cases Except.ok.inj h
          exact .picked hs ht

theorem apply_kind_of_ne {d d' : Draft} {e : DraftEdit} (h : d.apply e = .ok d')
    (he : e.field ≠ .kind) : d'.kind = d.kind := by
  cases applies_of_apply h with
  | cleared | picked => exact absurd rfl he
  | _ => rfl

theorem apply_name_of_ne {d d' : Draft} {e : DraftEdit} (h : d.apply e = .ok d')
    (he : e.field ≠ .name) : d'.name = d.name := by
  cases applies_of_apply h with
  | name => exact absurd rfl he
  | _ => rfl

theorem apply_pick (d : Draft) (t : ToolKind) :
    d.apply (.pick t) = .ok { d with kind := some t } := by
  cases t <;> rfl

end Draft

end ToolAuthoring
