import ToolAuthoring.Node.Codec
import ToolAuthoring.Proofs.Json.Records

/-!
# Nodes there and back

The data of a node is written with the members that have a type of their own, some of which are left
out when there is nothing to write, and with all other members behind them.  This can be read back
only if no other member takes the key of one with a type.  Decoding sees to that, since it keeps a
member among the others only if it has no place of its own, and staging a setting leaves the other
members alone.

* `NodePayload.Separate`: no other member has the key of one with a type;
  `FlowNode.separate_of_decode`, `FlowNode.separate_stageAll`: so it is in every node that has been
  decoded and edited.
* `NodePayload.ofValue_json`, `FlowNode.ofValue_json`: such a node is read back.
* `NodePayload.nodup_keys_members`: its data is written with no key twice.
* `FlowNode.stageAll_survives`: **a node survives its way to JSON and back after all edits**.
-/

namespace ToolAuthoring

/-! ### Places and attached tools -/

namespace Placement

/-- The parts of a place, under the keys of its members. -/
def parts (p : Placement) : List (String × Part) :=
  [("x", .x p.x), ("y", .y p.y)]

theorem fills (p : Placement) : layout.Fills origin put p.parts p where
  nodup := by simp [parts]
  complete := rfl
  commute := by simp [parts, Layout.Commute, put]
  made := by simp [parts, put]

theorem ofValue_json (p : Placement) : Decoder.ofValue Placement.decode p.json.value = .ok p :=
  Layout.ofValue_of_reads (.cons (.slot rfl rfl) <| .cons (.slot rfl rfl) .nil) p.fills

end Placement

namespace AttachedTool

/-- The parts of an attached tool, under the keys of its members. -/
def parts (t : AttachedTool) : List (String × Part) :=
  [("id", .id t.id), ("name", .name t.name), ("description", .description t.description)]
    ++ t.kindName.toList.map fun s => ("type", .kindName (some s))

theorem fills (t : AttachedTool) : layout.Fills ⟨"", "", "", none⟩ put t.parts t where
  nodup := by cases h : t.kindName <;> simp [parts, h]
  complete := by cases h : t.kindName <;> simp [parts, h, Layout.missing?, layout]
  commute := by cases h : t.kindName <;> simp [parts, h, Layout.Commute, put]
  made := by
    obtain ⟨id, name, description, kindName⟩ := t
    cases kindName <;> simp [parts, put]

theorem reads (t : AttachedTool) : List.Forall₂ layout.ReadsValue t.json.members t.parts := by
  refine .cons (.slot rfl rfl) <| .cons (.slot rfl rfl) <| .cons (.slot rfl rfl) ?_
  cases t.kindName with
  | none => exact .nil
  | some s => exact .cons (.slot rfl rfl) .nil

theorem ofValue_json (t : AttachedTool) :
    Decoder.ofValue AttachedTool.decode t.json.value = .ok t :=
  Layout.ofValue_of_reads t.reads t.fills

end AttachedTool

/-! ### The data of a node -/

theorem Integration.decodeKey_name (i : Integration) : decodeKey i.name = .ok i := by
  cases i <;> rfl

namespace NodePayload

/-- The staged settings are read back, also those of an integration that has none. -/
theorem staged_ofValue (m : KeyMap Integration StagedValues) :
    Decoder.ofValue (Decoder.map Integration.decodeKey (Decoder.map .ok Decoder.text))
      (stagedJson m).value = .ok m :=
  Decoder.ofValue_map Integration.decodeKey_name
    (fun values => Decoder.ofValue_map (fun _ => rfl) (fun _ => rfl) values) m

/-- The key of the member that a part stands for. -/
def Part.key : Part → String
  | .type _ => "type"
  | .label _ => "label"
  | .description _ => "description"
  | .tool _ => "tool"
  | .staged _ => "toolOperation"
  | .extra key _ => key

/-- The parts with a type of their own. -/
def typedParts (p : NodePayload) : List Part :=
  [.type p.type, .label p.label] ++ (p.description.toList.map fun s => .description (some s))
    ++ [.tool p.tool] ++ if p.staged.isEmpty then [] else [.staged p.staged]

/-- The parts of the other members. -/
def extraParts (p : NodePayload) : List Part :=
  p.extra.entries.map fun e => .extra e.1 e.2

/-- The parts of a payload, under the keys of its members. -/
def parts (p : NodePayload) : List (String × Part) :=
  (p.typedParts ++ p.extraParts).map fun part => (part.key, part)

/-- No other member has the key of one with a type. -/
def Separate (p : NodePayload) : Prop :=
  ∀ key ∈ p.extra.keys, layout.slot? key = none

variable {p : NodePayload}

theorem parts_keys (p : NodePayload) :
    p.parts.map (·.1) = p.typedParts.map Part.key ++ p.extra.keys := by
  simp [parts, extraParts, KeyMap.keys, Part.key, Function.comp_def]

/-- A part with a type of its own has a place in the layout. -/
theorem slot?_isSome_of_mem_typedParts {part : Part} (h : part ∈ p.typedParts) :
    (layout.slot? part.key).isSome := by
  simp only [typedParts, List.mem_append, List.mem_cons, List.mem_map, List.not_mem_nil,
    or_false] at h
  rcases h with (((rfl | rfl) | ⟨s, -, rfl⟩) | rfl) | h
  · rfl
  · rfl
  · rfl
  · rfl
  · split at h
    · cases h
    · obtain rfl := List.mem_singleton.1 h
      rfl

theorem nodup_typedParts (p : NodePayload) : (p.typedParts.map Part.key).Nodup := by
  cases hd : p.description <;> cases hs : p.staged.isEmpty <;>
    simp [typedParts, hd, hs, Part.key]

/-- The keys of the other members are apart from those with a type. -/
theorem nodup_parts (h : p.Separate) : (p.parts.map (·.1)).Nodup := by
  rw [parts_keys]
  refine p.nodup_typedParts.append p.extra.keys_nodup fun key ht he => ?_
  obtain ⟨part, hpart, rfl⟩ := List.mem_map.1 ht
  have hslot := slot?_isSome_of_mem_typedParts hpart
  rw [h _ he] at hslot
  cases hslot

/-- Parts for different members can be put into a payload in either order. -/
theorem put_comm {a b : Part} (h : a.key ≠ b.key) (p : NodePayload) :
    put (put p a) b = put (put p b) a := by
  -- parts of one kind have one key, except for other members, where the keys then differ
  cases a <;> cases b <;>
    first
    | rfl
    | exact absurd rfl h
    | exact congrArg (NodePayload.mk _ _ _ _ _) (KeyMap.insert_comm _ h _ _)

theorem foldl_put_extra (es : List (String × JsonValue)) (p : NodePayload) :
    (es.map fun e => Part.extra e.1 e.2).foldl put p =
      { p with extra := es.foldl (fun m e => m.insert e.1 e.2) p.extra } := by
  induction es generalizing p with
  | nil => rfl
  | cons e es ih => rw [List.map_cons, List.foldl_cons, ih, put, List.foldl_cons]

/-- The parts of a payload make up the payload. -/
theorem foldl_parts (p : NodePayload) :
    (p.parts.map (·.2)).foldl put ⟨"", "", none, none, .empty, .empty⟩ = p := by
  have hparts : p.parts.map (·.2) = p.typedParts ++ p.extraParts := by
    simp [parts, Function.comp_def]
  have htyped : p.typedParts.foldl put ⟨"", "", none, none, .empty, .empty⟩ =
      { p with extra := .empty } := by
    obtain ⟨type, label, description, tool, staged, extra⟩ := p
    cases hs : staged.isEmpty with
    | true =>
      -- what is left out is empty, as it is in the payload to begin with
      obtain rfl := KeyMap.eq_empty_of_isEmpty hs
      cases description <;> simp [typedParts, hs, put]
    | false => cases description <;> simp [typedParts, hs, put]
  rw [hparts, List.foldl_append, htyped, extraParts, foldl_put_extra]
  show { p with extra := KeyMap.ofList p.extra.entries } = p
  rw [KeyMap.ofList_entries]

theorem fills (h : p.Separate) :
    layout.Fills ⟨"", "", none, none, .empty, .empty⟩ put p.parts p where
  nodup := nodup_parts h
  complete := by simp [Layout.missing?, layout, parts, typedParts, Part.key]
  commute := by
    refine List.pairwise_map.2 ?_
    have hn : ((p.typedParts ++ p.extraParts).map Part.key).Nodup := by
      simpa [parts, Function.comp_def] using nodup_parts h
    exact (List.pairwise_map.1 hn).imp fun hne => put_comm hne
  made := p.foldl_parts

theorem reads_extra {key : String} (h : layout.slot? key = none) (v : JsonValue) :
    layout.ReadsValue (key, v.json) (key, .extra key v) := by
  have hv : Decoder.value .value v.json.value.json.document = .ok v := by
    rw [v.canonical.json_value, Decoder.value, Document.value_document, ofSyntax]
  exact .other h rfl (congrArg (Part.extra key <$> ·) hv)

theorem reads_tool (tool : Option AttachedTool) :
    layout.ReadsValue ("tool", match tool with | some t => t.json | none => .null)
      ("tool", .tool tool) := by
  refine .slot rfl ?_
  cases tool with
  | none => rfl
  | some t => exact congrArg (fun x => Part.tool <$> some <$> x) t.ofValue_json

theorem reads (h : p.Separate) : List.Forall₂ layout.ReadsValue p.members p.parts := by
  simp only [members, parts, typedParts, extraParts, List.map_append]
  refine List.rel_append (List.rel_append (List.rel_append (List.rel_append ?_ ?_) ?_) ?_) ?_
  · exact .cons (.slot rfl rfl) <| .cons (.slot rfl rfl) .nil
  · cases p.description with
    | none => exact .nil
    | some s => exact .cons (.slot rfl rfl) .nil
  · exact .cons (reads_tool p.tool) .nil
  · split
    · exact .nil
    · exact .cons (.slot rfl (congrArg (Part.staged <$> ·) (staged_ofValue p.staged))) .nil
  · rw [List.map_map]
    refine List.forall₂_map_left_iff.2 (List.forall₂_map_right_iff.2 (List.forall₂_same.2 ?_))
    exact fun e he => reads_extra (h e.1 (List.mem_map_of_mem he)) e.2

/-- A payload whose other members are apart is read back. -/
theorem ofValue_json (h : p.Separate) : Decoder.ofValue NodePayload.decode p.json.value = .ok p :=
  Layout.ofValue_of_reads (reads h) (fills h)

/-- A payload whose other members are apart is written with no key twice. -/
theorem nodup_keys_members (h : p.Separate) : (p.members.map (·.1)).Nodup := by
  rw [Layout.keys_eq_of_readsValue (reads h)]
  exact nodup_parts h

/-- A member is kept among the others only if it has no place of its own. -/
theorem separate_of_decode {origin : Origin} {d : Document} (h : decode origin d = .ok p) :
    p.Separate := by
  refine Layout.decode_invariant (P := Separate) ?_ ?_ h
  · intro key hkey
    cases hkey
  · intro p part hp hpart
    cases hpart with
    | @slot slot d part hslot hd =>
      simp only [layout, List.mem_cons, List.not_mem_nil, or_false] at hslot
      rcases hslot with rfl | rfl | rfl | rfl | rfl <;>
        obtain ⟨a, -, rfl⟩ := map_eq_ok_iff.1 hd <;> exact hp
    | @other key keep d part hs ho hd =>
      cases ho
      obtain ⟨v, -, rfl⟩ := map_eq_ok_iff.1 hd
      intro key' hkey'
      rcases KeyMap.mem_keys_insert.1 hkey' with rfl | hkey'
      · exact hs
      · exact hp key' hkey'

end NodePayload

/-! ### Nodes -/

namespace FlowNode

/-- The node with these settings staged one after the other, each for an integration and a key. -/
def stageAll (n : FlowNode) (edits : List (Integration × String × String)) : FlowNode :=
  edits.foldl (fun n e => n.stage e.1 e.2.1 e.2.2) n

variable {n : FlowNode}

theorem separate_of_decode {origin : Origin} {d : Document} (h : decode origin d = .ok n) :
    n.payload.Separate := by
  refine Layout.decode_invariant (P := fun n : FlowNode => n.payload.Separate) ?_ ?_ h
  · intro key hkey
    cases hkey
  · intro n part hn hpart
    cases hpart with
    | @slot slot d part hslot hd =>
      simp only [layout, List.mem_cons, List.not_mem_nil, or_false] at hslot
      rcases hslot with rfl | rfl | rfl | rfl <;>
        obtain ⟨a, ha, rfl⟩ := map_eq_ok_iff.1 hd
      · exact hn
      · exact hn
      · exact NodePayload.separate_of_decode ha
      · exact hn
    | other hs ho hd => cases ho

/-- Staging a setting leaves the other members of the data alone. -/
theorem separate_stage (h : n.payload.Separate) (i : Integration) (key value : String) :
    (n.stage i key value).payload.Separate := h

theorem separate_stageAll (h : n.payload.Separate)
    (edits : List (Integration × String × String)) : (n.stageAll edits).payload.Separate := by
  induction edits generalizing n with
  | nil => exact h
  | cons e edits ih => exact ih (separate_stage h e.1 e.2.1 e.2.2)

/-- The parts of a node, under the keys of its members. -/
def parts (n : FlowNode) : List (String × Part) :=
  [("id", .id n.id), ("type", .type n.type), ("data", .payload n.payload),
    ("position", .place n.place)]

theorem fills (n : FlowNode) :
    layout.Fills ⟨"", "", ⟨"", "", none, none, .empty, .empty⟩, .origin⟩ put n.parts n where
  nodup := by simp [parts]
  complete := rfl
  commute := by simp [parts, Layout.Commute, put]
  made := by simp [parts, put]

/-- A node is read back if the other members of its data are apart. -/
theorem ofValue_json (h : n.payload.Separate) :
    Decoder.ofValue FlowNode.decode n.json.value = .ok n := by
  have hpayload := congrArg (Part.payload <$> ·) (NodePayload.ofValue_json h)
  have hplace := congrArg (Part.place <$> ·) n.place.ofValue_json
  exact Layout.ofValue_of_reads (.cons (.slot rfl rfl) <| .cons (.slot rfl rfl) <|
    .cons (.slot rfl hpayload) <| .cons (.slot rfl hplace) .nil) n.fills

theorem member?_data (n : FlowNode) : n.json.member? "data" = some n.payload.json := by
  simp [Json.member?, json, Json.members, lookupEntry_cons_eq]

/-- **A node that has been decoded survives its way to JSON and back, whatever has been staged
since, and its data is written with no key twice.** -/
theorem stageAll_survives {v : JsonValue} {n : FlowNode} (hv : FlowNode.decode.ofValue v = .ok n)
    (edits : List (Integration × String × String)) :
    FlowNode.decode.ofValue (n.stageAll edits).json.value = .ok (n.stageAll edits) ∧
      ∃ data, (n.stageAll edits).json.member? "data" = some data ∧
        (data.members.map (·.1)).Nodup := by
  have h := separate_stageAll (separate_of_decode hv) edits
  exact ⟨ofValue_json h, _, member?_data _, NodePayload.nodup_keys_members h⟩

/-- A stored node whose tool has no type, with settings for an integration that are there but empty,
and with a member that has no type of its own. -/
def storedAgent : JsonValue :=
  (Json.record [("id", .text "node-7"), ("type", .text "agent"),
    ("data", .record [("type", .text "agent"),
      ("tool", .record [("id", .text "t1"), ("name", .text "CRM")]),
      ("toolOperation", .record [("sap", .record [])]),
      ("node", .record [("systemPrompt", .text "be brief")])])]).value

/-- The node that is decoded from `storedAgent`. -/
def agent : FlowNode where
  id := "node-7"
  type := "agent"
  payload :=
    { type := "agent", label := "", description := none, tool := some ⟨"t1", "CRM", "", none⟩,
      staged := .ofList [(.sap, .empty)],
      extra := .ofList [("node", (Json.record [("systemPrompt", .text "be brief")]).value)] }
  place := .origin

theorem stageAll_survives_agent :
    FlowNode.decode.ofValue storedAgent = .ok agent ∧
      let n := agent.stageAll [(.salesforce, "operation", "query"), (.sap, "functionName", "BAPI_X")]
      FlowNode.decode.ofValue n.json.value = .ok n ∧
        ∃ data, n.json.member? "data" = some data ∧ (data.members.map (·.1)).Nodup :=
  have hv : FlowNode.decode.ofValue storedAgent = .ok agent := rfl
  ⟨hv, stageAll_survives hv _⟩

end FlowNode

end ToolAuthoring
