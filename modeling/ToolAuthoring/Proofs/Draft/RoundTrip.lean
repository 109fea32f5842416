import ToolAuthoring.Proofs.Draft.Decoding
import ToolAuthoring.Proofs.Draft.Edits
import ToolAuthoring.Proofs.Draft.LatestEdits
import ToolAuthoring.Wizard.Config

/-!
# The records around a draft

Drafts, configurations of the wizard, control events and edits are read back from the values that
they are written as.  None of them is written with a key twice, and the parts of each can be put
together in any order, so it is enough that every member is read as its part.  An edit is written
with the dotted name of its field, which the setting with the empty key does not have; but such an
edit is never read.

* `Draft.ofValue_json`, `WizardConfig.ofValue_json`, `ControlEvent.ofValue_json`,
  `DraftEdit.ofValue_json`: one record each.
* `DraftEdit.field_ne_of_decode`: an edit that is read has a field with a name.
* `draft_records_roundTrip`: **decoding undoes writing for all of them**.
-/

namespace ToolAuthoring

theorem Settings.canonical_json (m : Settings) : m.json.Canonical := by
  refine .record (m.ascending.map Setting.json) fun member hm => ?_
  obtain ⟨e, -, rfl⟩ := List.mem_map.1 hm
  cases e.2 with
  | text s => exact .text s
  | flag b => exact .bool b

namespace Draft

theorem canonical_members (d : Draft) : ∀ m ∈ d.json.members, m.2.Canonical := by
  have hkind : (kindJson d.kind).Canonical := by cases d.kind <;> exact .text _
  have hparameters : (Json.list (d.parameters.map JsonValue.json)).Canonical :=
    (JsonValue.list d.parameters).canonical
  simp [json, Json.members, Json.Canonical.text, Json.Canonical.bool, hkind,
    d.settings.canonical_json, hparameters]

theorem ofValue_json (d : Draft) : Decoder.ofValue Draft.decode d.json.value = .ok d :=
  Layout.ofValue_of_canonical d.canonical_members (reads .value d) d.fills

/-- A draft without a kind is written with an empty one. -/
theorem member?_type (d : Draft) (h : d.kind = none) :
    d.json.value.json.member? "type" = some (.text "") := by
  rw [json, Json.member?_value (by simp), h]
  simp [lookupEntry_cons_eq, kindJson, Json.value]

end Draft

namespace WizardConfig

/-- The parts of a configuration, under the keys of its members. -/
def parts (c : WizardConfig) : List (String × Part) :=
  [("self_authored", .selfAuthored c.selfAuthored),
    ("review_excerpt_chars", .excerptLength c.excerptLength),
    ("code_language", .language c.language)]

theorem reads (c : WizardConfig) :
    List.Forall₂ (layout.Reads .value) (Json.memberDocuments c.json.members) c.parts := by
  have hkind : ToolKind.decode .value c.selfAuthored.json.document = .ok c.selfAuthored := by
    cases c.selfAuthored <;> rfl
  have hcount :
      Decoder.count .value (Json.natural c.excerptLength).document = .ok c.excerptLength := by
    simp [Json.natural, Json.document, Decoder.count]
  exact .cons (.slot rfl (congrArg (Part.selfAuthored <$> ·) hkind)) <|
    .cons (.slot rfl (congrArg (Part.excerptLength <$> ·) hcount)) <| .cons (.slot rfl rfl) .nil

theorem fills (c : WizardConfig) : layout.Fills standard put c.parts c where
  nodup := by simp [parts]
  complete := rfl
  commute := by simp [parts, Layout.Commute, put]
  made := by simp [parts, put]

theorem ofValue_json (c : WizardConfig) :
    Decoder.ofValue WizardConfig.decode c.json.value = .ok c :=
  Layout.ofValue_of_canonical
    (by simp [ToolKind.json, Json.natural, Json.Canonical.text, Json.Canonical.number])
    c.reads c.fills

end WizardConfig

namespace ControlEvent

/-- The parts of a control event, under the keys of its members. -/
def parts (e : ControlEvent) : List (String × Part) :=
  [("name", .name e.name), ("kind", .control e.control), ("value", .value e.value),
    ("checked", .checked e.checked)]

theorem reads (e : ControlEvent) :
    List.Forall₂ (layout.Reads .value) (Json.memberDocuments e.json.members) e.parts := by
  have hcontrol : ControlKind.decode .value e.control.json.document = .ok e.control := by
    cases e.control <;> rfl
  exact .cons (.slot rfl rfl) <| .cons (.slot rfl (congrArg (Part.control <$> ·) hcontrol)) <|
    .cons (.slot rfl rfl) <| .cons (.slot rfl rfl) .nil

theorem fills (e : ControlEvent) : layout.Fills ⟨"", .text, "", false⟩ put e.parts e where
  nodup := by simp [parts]
  complete := rfl
  commute := by simp [parts, Layout.Commute, put]
  made := by simp [parts, put]

theorem ofValue_json (e : ControlEvent) :
    Decoder.ofValue ControlEvent.decode e.json.value = .ok e :=
  Layout.ofValue_of_canonical
    (by simp [ControlKind.json, Json.Canonical.text, Json.Canonical.bool])
    e.reads e.fills

end ControlEvent

/-- A field is read from its dotted name. -/
theorem DraftField.decode_eq_ok_iff {origin : Origin} {d : Document} {f : DraftField} :
    DraftField.decode origin d = .ok f ↔ d = .text f.dotted ∧ f ≠ .setting "" := by
  have hreason (s : String) : withReason ofDotted s = .ok f ↔ ofDotted s = .ok f := by
    unfold withReason
    cases ofDotted s <;> simp [Except.mapError]
  rw [DraftField.decode, Decoder.parsed, bind_eq_ok_iff]
  constructor
  · rintro ⟨s, hs, hf⟩
    split at hf
    · rename_i f' hf'
      cases hf
      obtain ⟨rfl, hne⟩ := ofDotted_eq_ok_iff.1 ((hreason s).1 hf')
      exact ⟨Decoder.text_eq_ok_iff.1 hs, hne⟩
    · cases hf
  · rintro ⟨rfl, hne⟩
    refine ⟨f.dotted, rfl, ?_⟩
    rw [(hreason f.dotted).2 (ofDotted_eq_ok_iff.2 ⟨rfl, hne⟩)]
    rfl

namespace DraftEdit

/-- The parts of an edit, under the keys of its members. -/
def parts (e : DraftEdit) : List (String × Part) :=
  [("path", .field e.field), ("value", .value e.value)]

theorem reads {e : DraftEdit} (h : e.field ≠ .setting "") :
    List.Forall₂ (layout.Reads .value) (Json.memberDocuments e.json.members) e.parts := by
  have hfield : DraftField.decode .value e.field.json.document = .ok e.field :=
    DraftField.decode_eq_ok_iff.2 ⟨rfl, h⟩
  have hvalue : Setting.decodeNew .value e.value.json.document = .ok e.value := by
    cases e.value <;> rfl
  exact .cons (.slot rfl (congrArg (Part.field <$> ·) hfield)) <|
    .cons (.slot rfl (congrArg (Part.value <$> ·) hvalue)) .nil

theorem fills (e : DraftEdit) : layout.Fills ⟨.name, .text ""⟩ put e.parts e where
  nodup := by simp [parts]
  complete := rfl
  commute := by simp [parts, Layout.Commute, put]
  made := by simp [parts, put]

theorem ofValue_json {e : DraftEdit} (h : e.field ≠ .setting "") :
    Decoder.ofValue DraftEdit.decode e.json.value = .ok e := by
  refine Layout.ofValue_of_canonical ?_ (reads h) e.fills
  have hvalue : e.value.json.Canonical := by cases e.value <;> constructor
  simp [DraftField.json, Json.Canonical.text, hvalue]

/-- An edit that is read has a field with a name. -/
theorem field_ne_of_decode {origin : Origin} {d : Document} {e : DraftEdit}
    (h : DraftEdit.decode origin d = .ok e) : e.field ≠ .setting "" := by
  refine Layout.decode_invariant (P := fun e => e.field ≠ .setting "") (by decide) ?_ h
  intro e part he hpart
  cases hpart with
  | @slot slot d part hslot hd =>
    rcases List.mem_pair.1 hslot with rfl | rfl
    · obtain ⟨f, hf, rfl⟩ := map_eq_ok_iff.1 hd
      exact (DraftField.decode_eq_ok_iff.1 hf).2
    · obtain ⟨v, -, rfl⟩ := map_eq_ok_iff.1 hd
      exact he
  | other hs ho hd => cases ho

end DraftEdit

/-- **Decoding undoes writing for drafts, configurations, control events and edits.** -/
theorem draft_records_roundTrip :
    RoundTrip Draft.json Draft.decode (fun _ => True) ∧
      (∀ d : Draft, d.kind = none → d.json.value.json.member? "type" = some (.text "")) ∧
      RoundTrip WizardConfig.json WizardConfig.decode (fun _ => True) ∧
      RoundTrip ControlEvent.json ControlEvent.decode (fun _ => True) ∧
      RoundTrip DraftEdit.json DraftEdit.decode (fun e => e.field ≠ .setting "") :=
  ⟨.of_decoded (fun d _ => d.ofValue_json) (fun _ _ _ => trivial), Draft.member?_type,
    .of_decoded (fun c _ => c.ofValue_json) (fun _ _ _ => trivial),
    .of_decoded (fun e _ => e.ofValue_json) (fun _ _ _ => trivial),
    .of_decoded (fun _ => DraftEdit.ofValue_json) (fun _ _ => DraftEdit.field_ne_of_decode)⟩

end ToolAuthoring
