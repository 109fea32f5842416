import ToolAuthoring.Draft.Codec
import ToolAuthoring.Proofs.Json.Records

/-!
# Decoding what was encoded

A draft is written as a record with a member for each of its parts, and it is decoded member by
member.  So each part only has to survive its own way there and back.

* `Settings.decode_json`, `Draft.decodeKind_json`: the parts of a draft.
* `Draft.reads`: the members of a draft are read as its parts.
* `Draft.decode_json`: **a draft survives its way to JSON and back**.
-/

namespace ToolAuthoring

theorem Setting.decode_json (origin : Origin) (v : Setting) :
    Setting.decode origin v.json.document = .ok v := by
  cases v <;> rfl

theorem Settings.decode_json (origin : Origin) (m : Settings) :
    Settings.decode origin m.json.document = .ok m := by
  have hreads (e : String × Setting) :
      Decoder.ReadsEntry .ok Setting.decode origin (.ok e.1, e.2.json.document) e :=
    ⟨⟨_, rfl, rfl⟩, Setting.decode_json origin e.2⟩
  rw [Settings.json, Json.document, Json.memberDocuments_eq_map, List.map_map]
  exact Decoder.map_of_reads
    (List.forall₂_map_left_iff.2 (List.forall₂_same.2 fun e _ => hreads e)) (.refl _)

namespace Draft

theorem decodeKind_json (origin : Origin) (kind : Option ToolKind) :
    decodeKind origin (kindJson kind).document = .ok kind := by
  cases kind with
  | none => rfl
  | some t => cases t <;> rfl

theorem values_json (origin : Origin) (vs : List JsonValue) :
    Decoder.values origin (Json.list (vs.map (·.json))).document = .ok vs := by
  simp only [Json.document, Decoder.values, Document.values_map_json]
  rfl

/-- The parts of a draft, under the keys of its members. -/
def parts (d : Draft) : List (String × Part) :=
  [("name", .name d.name), ("description", .description d.description), ("type", .kind d.kind),
    ("config", .settings d.settings), ("code", .code d.code), ("is_active", .active d.active),
    ("parameters", .parameters d.parameters)]

theorem reads (origin : Origin) (d : Draft) :
    List.Forall₂ (layout.Reads origin) (Json.memberDocuments d.json.members) d.parts := by
  have hkind := congrArg (Part.kind <$> ·) (decodeKind_json origin d.kind)
  have hsettings := congrArg (Part.settings <$> ·) (Settings.decode_json origin d.settings)
  have hparameters := congrArg (Part.parameters <$> ·) (values_json origin d.parameters)
  exact .cons (.slot rfl rfl) <| .cons (.slot rfl rfl) <| .cons (.slot rfl hkind) <|
    .cons (.slot rfl hsettings) <| .cons (.slot rfl rfl) <| .cons (.slot rfl rfl) <|
    .cons (.slot rfl hparameters) .nil

theorem fills (d : Draft) : layout.Fills empty put d.parts d where
  nodup := by simp [parts]
  complete := rfl
  commute := by simp [parts, Layout.Commute, put]
  made := by simp [parts, put]

/-- **A draft survives its way to JSON and back.** -/
theorem decode_json (origin : Origin) (d : Draft) :
    Draft.decode origin d.json.document = .ok d :=
  Layout.decode_of_reads (reads origin d) d.fills (.refl _)

end Draft

end ToolAuthoring
