import ToolAuthoring.Proofs.Form.Addresses

/-!
# What an overview gives away

An overview has the name of a tool, its type and the public settings in effect.  In the sheets of
the integrations no secret shares its key with a public field, so what is stored under the key of a
secret leaves no trace in it.

* `ConnectionField.isPrivate`: the fields whose values must not be seen.
* `ConnectionSheet.Discreet`: the keys of an overview are apart from each other and from those of
  private fields; `Integration.connection_discreet`: so it is for every integration.
* `ConnectionSheet.contains_overview`, `ConnectionSheet.Discreet.get?_overview`: what is in an
  overview.
* `Integration.overview_discreet`: **an overview agrees with the form and gives no secret away**.
-/

namespace ToolAuthoring

/-- Whether the value of a field must not be seen in overviews: it is a credential, a password or a
user name, or belongs to one way to sign in. -/
def ConnectionField.isPrivate (f : ConnectionField) : Bool :=
  f.credential || f.field.entry == .password || f.field.key == "username" || f.gate.isSome

namespace ConnectionSheet

variable {sheet : ConnectionSheet} {name key : String} {s : Settings} {f : ConnectionField}

/-- The keys of the public fields. -/
def publicKeys (sheet : ConnectionSheet) : List String :=
  (sheet.fields.filter isPublic).map fun f => f.field.key

theorem mem_publicKeys :
    key ∈ sheet.publicKeys ↔ ∃ f ∈ sheet.fields, isPublic f ∧ f.field.key = key := by
  simp [publicKeys, and_assoc]

/-- The name and the type stand under keys of their own, and no private field has a key of the
overview. -/
structure Discreet (sheet : ConnectionSheet) : Prop where
  name_apart : "name" ∉ sheet.publicKeys
  type_apart : "type" ∉ sheet.publicKeys
  guarded : ∀ f ∈ sheet.fields, f.isPrivate → f.field.key ∉ "name" :: "type" :: sheet.publicKeys

/-! ### What is in an overview -/

/-- The entries of an overview, in the order in which they are written. -/
def overviewEntries (sheet : ConnectionSheet) (name : String) (s : Settings) :
    List (String × String) :=
  ("name", name) :: ("type", sheet.integration.name) ::
    sheet.publicKeys.map fun key => (key, sheet.inEffect s key)

theorem overview_eq (sheet : ConnectionSheet) (name : String) (s : Settings) :
    sheet.overview name s = .ofList (sheet.overviewEntries name s) := by
  rw [overview, overviewEntries, publicKeys, List.map_map]
  rfl

theorem keys_overviewEntries (sheet : ConnectionSheet) (name : String) (s : Settings) :
    (sheet.overviewEntries name s).map (·.1) = "name" :: "type" :: sheet.publicKeys := by
  simp [overviewEntries, Function.comp_def]

theorem contains_overview : (sheet.overview name s).contains key ↔
    key = "name" ∨ key = "type" ∨ ∃ f ∈ sheet.fields, isPublic f ∧ f.field.key = key := by
  rw [overview_eq, KeyMap.contains_ofList, keys_overviewEntries, List.mem_cons, List.mem_cons,
    mem_publicKeys]

theorem Discreet.get?_overview (h : sheet.Discreet)
    (hkey : key ∈ "name" :: "type" :: sheet.publicKeys) : (sheet.overview name s).get? key =
      some (if key = "name" then name else if key = "type" then sheet.integration.name
        else sheet.inEffect s key) := by
  rw [overview_eq]
  refine KeyMap.get?_ofList_of_forall (by rwa [keys_overviewEntries]) fun p hp hpkey => ?_
  subst hpkey
  simp only [overviewEntries, List.mem_cons, List.mem_map] at hp
  rcases hp with rfl | rfl | ⟨key, hpublic, rfl⟩
  · rw [if_pos rfl]
  · have hne : "type" ≠ "name" := by decide
    rw [if_neg hne, if_pos rfl]
  · have hname : key ≠ "name" := fun heq => h.name_apart (heq ▸ hpublic)
    have htype : key ≠ "type" := fun heq => h.type_apart (heq ▸ hpublic)
    rw [if_neg hname, if_neg htype]

/-- A public field is always shown, with the value in effect. -/
theorem input?_of_public (hkey : key ∈ sheet.publicKeys) : ∃ i,
    (sheet.render s).input? key = some i ∧ i.value = sheet.inEffect s key := by
  obtain ⟨f, hf, hpublic, rfl⟩ := mem_publicKeys.1 hkey
  have hgate : f.gate = none := by
    rw [isPublic, Bool.and_eq_true_iff] at hpublic
    exact Option.isNone_iff_eq_none.1 hpublic.1
  have hshown : sheet.inputFor s f ∈ (sheet.render s).inputs :=
    mem_inputs_render.2 ⟨f, hf, by simp [shows, hgate], rfl⟩
  obtain ⟨i, hi⟩ := ShownForm.exists_input? hshown
  refine ⟨i, hi, ?_⟩
  obtain ⟨hmem, hikey⟩ := ShownForm.mem_of_input? hi
  obtain ⟨g, -, -, rfl⟩ := mem_inputs_render.1 hmem
  exact congrArg (sheet.inEffect s) hikey

/-! ### What is not -/

/-- Overviews are the same for settings that agree under the keys of the public fields. -/
theorem overview_eq_of_agree {s' : Settings} (h : ∀ f ∈ sheet.fields, isPublic f →
    s.get? f.field.key = s'.get? f.field.key) : sheet.overview name s = sheet.overview name s' :=
  overview_congr name fun f hf hpublic => Settings.textOr_of_get? (h f hf hpublic)

theorem Discreet.not_contains (h : sheet.Discreet) (hf : f ∈ sheet.fields) (hprivate : f.isPrivate) :
    ¬ (sheet.overview name s).contains f.field.key := by
  rw [overview_eq, KeyMap.contains_ofList, keys_overviewEntries]
  exact h.guarded f hf hprivate

/-- What is stored under the key of a private field leaves no trace. -/
theorem Discreet.overview_insert (h : sheet.Discreet) (hf : f ∈ sheet.fields)
    (hprivate : f.isPrivate) (v : Setting) :
    sheet.overview name (s.insert f.field.key v) = sheet.overview name s := by
  refine overview_eq_of_agree fun g hg hpublic => KeyMap.get?_insert_of_ne s ?_ v
  intro hkey
  have hmem : f.field.key ∈ sheet.publicKeys := mem_publicKeys.2 ⟨g, hg, hpublic, hkey⟩
  exact h.guarded f hf hprivate (by simp [hmem])

end ConnectionSheet

open ConnectionSheet (isPublic)

theorem Integration.connection_discreet (i : Integration) : i.connection.Discreet := by
  cases i <;> exact ⟨by decide +kernel, by decide +kernel, by decide +kernel⟩

theorem Integration.connection_integration (i : Integration) : i.connection.integration = i := by
  cases i <;> rfl

/-- **An overview agrees with the form and gives no secret away.** It has the name, the type and the
keys of the public fields, each with the value that the form shows; settings that agree under these
keys have the same overview, so no value of a private field has a part in it. -/
theorem Integration.overview_discreet (i : Integration) (name : String) (s : Settings) :
    (∀ key, (i.connection.overview name s).contains key ↔
        key = "name" ∨ key = "type" ∨ ∃ f ∈ i.connection.fields, isPublic f ∧ f.field.key = key) ∧
      (i.connection.overview name s).get? "name" = some name ∧
      (i.connection.overview name s).get? "type" = some i.name ∧
      (∀ key v, key ≠ "name" → key ≠ "type" → (i.connection.overview name s).get? key = some v →
        ∃ input, (i.connection.render s).input? key = some input ∧ input.value = v) ∧
      (∀ s', (∀ f ∈ i.connection.fields, isPublic f → s.get? f.field.key = s'.get? f.field.key) →
        i.connection.overview name s = i.connection.overview name s') ∧
      ∀ f ∈ i.connection.fields, f.isPrivate →
        ¬ (i.connection.overview name s).contains f.field.key ∧
          ∀ v, i.connection.overview name (s.insert f.field.key v) =
            i.connection.overview name s := by
  have hdiscreet : i.connection.Discreet := i.connection_discreet
  refine ⟨fun key => ConnectionSheet.contains_overview, ?_, ?_, ?_,
    fun s' => ConnectionSheet.overview_eq_of_agree, fun f hf hprivate =>
      ⟨hdiscreet.not_contains hf hprivate, hdiscreet.overview_insert hf hprivate⟩⟩
  · rw [hdiscreet.get?_overview (by simp), if_pos rfl]
  · have hne : "type" ≠ "name" := by decide
    rw [hdiscreet.get?_overview (by simp), if_neg hne, if_pos rfl, i.connection_integration]
  · intro key v hname htype hv
    have hcontains : (i.connection.overview name s).contains key := by
      rw [KeyMap.contains, hv, Option.isSome_some]
    have hkey : key ∈ i.connection.publicKeys := by
      rcases ConnectionSheet.contains_overview.1 hcontains with h | h | hpublic
      · exact absurd h hname
      · exact absurd h htype
      · exact ConnectionSheet.mem_publicKeys.2 hpublic
    obtain ⟨input, hinput, hvalue⟩ := ConnectionSheet.input?_of_public (s := s) hkey
    rw [hdiscreet.get?_overview (by simp [hkey]), if_neg hname, if_neg htype] at hv
    exact ⟨input, hinput, hvalue.trans (Option.some.inj hv)⟩

/-- The password of a SAP connection is not in its overview, although it is always shown. -/
example : (Sap.connection.overview "ERP" (.ofList [("password", .text "hunter2")])).contains
    "password" = false := by
  decide

end ToolAuthoring
