import ToolAuthoring.Proofs.Node.Staging

/-!
# What survives an edit of a node

A node is decoded, a setting is staged on it, and it is written again.  The texts, numbers and truth
values of its data are then where they were stored, apart from the setting itself, with one
exception: an attached tool is kept with its four members only, and whatever else was stored with it
is gone.

* `AttachedTool.at?_toolJson_iff`: what is kept of an attached tool.
* `NodePayload.at?_of_decode`: what is kept under all other keys.
* `FlowNode.Unkept`: the paths that lead into the rest of an attached tool.
* `FlowNode.scalar_kept_iff`: **a text, a number or a truth value is kept if and only if its path
  does not lead into the rest of the attached tool**.
-/

namespace ToolAuthoring

namespace JsonValue

/-- Null, or a record without members: nothing is lost with it. -/
def Bare (v : JsonValue) : Prop :=
  v = null ∨ v = record .empty

theorem Bare.not_isScalar {v s : JsonValue} (h : v.Bare) {path : List PathStep}
    (hs : v.at? path = some s) : ¬ s.isScalar := by
  intro hscalar
  cases path with
  | nil =>
    obtain rfl : v = s := Option.some.inj hs
    rcases h with rfl | rfl <;> cases hscalar
  | cons step path =>
    have hnone : v.child? step = none := by
      rcases h with rfl | rfl <;> cases step <;> rfl
    rw [at?_cons, hnone] at hs
    cases hs

end JsonValue

theorem Decoder.value_of_optional_text {v : JsonValue} {o : Option String}
    (h : Decoder.ofValue (Decoder.optional Decoder.text) v = .ok o) :
    v.Bare ∨ (o.map Json.text).map Json.value = some v := by
  unfold Decoder.ofValue Decoder.optional at h
  split at h
  · rename_i hdoc
    exact .inl (.inl (JsonValue.document_injective hdoc))
  · obtain ⟨s, hs, rfl⟩ := map_eq_ok_iff.1 h
    exact .inr (congrArg some (Decoder.value_of_text hs))

/-! ### Attached tools -/

namespace AttachedTool

/-- The keys of an attached tool. -/
def keys : List String := ["id", "name", "description", "type"]

/-- The key of the member that a part stands for. -/
def Part.key : Part → String
  | .id _ => "id"
  | .name _ => "name"
  | .description _ => "description"
  | .kindName _ => "type"

/-- What is written for a part, if anything is. -/
def Part.written? : Part → Option Json
  | .id s | .name s | .description s => some (.text s)
  | .kindName s => s.map .text

theorem member?_json (t : AttachedTool) (key : String) : t.json.member? key =
    if key = "id" then some (.text t.id)
    else if key = "name" then some (.text t.name)
    else if key = "description" then some (.text t.description)
    else if key = "type" then t.kindName.map .text
    else none := by
  show lookupEntry key (_ ++ t.kindName.toList.map _) = _
  simp only [lookupEntry_append, lookupEntry_optional, lookupEntry_cons_eq, lookupEntry_nil]
  split_ifs <;> simp

theorem key_of_reads {origin : Origin} {m : Except SyntaxError String × Document}
    {q : String × Part} (h : layout.Reads origin m q) : q.2.key = q.1 := by
  cases h with
  | @slot key d slot part hs hd =>
    obtain ⟨hmem, hkey⟩ := Layout.slot?_eq_some hs
    simp only [layout, List.mem_cons, List.not_mem_nil, or_false] at hmem
    rcases hmem with rfl | rfl | rfl | rfl <;>
      obtain ⟨a, -, rfl⟩ := map_eq_ok_iff.1 hd <;> exact hkey
  | other _ ho _ => cases ho

/-- A part is written under its key, and under all other keys the tool is written as before. -/
theorem member?_put (part : Part) (t : AttachedTool) (key : String) :
    (put t part).json.member? key =
      if key = part.key then part.written? else t.json.member? key := by
  cases part <;> simp only [member?_json, put, Part.key, Part.written?] <;> split_ifs <;> simp_all

variable {t : AttachedTool} {w s : JsonValue}

theorem get?_members_json (t : AttachedTool) (key : String) :
    t.json.value.members.get? key = (t.json.member? key).map Json.value := by
  refine Json.get?_members_value t.json ?_ key
  rw [Layout.keys_eq_of_readsValue t.reads]
  exact t.fills.nodup

/-- A part that is read from anything but null is written as it was stored. -/
theorem written?_of_reads {key : String} {part : Part}
    (h : layout.Reads .value (.ok key, w.json.document) (key, part)) :
    w.Bare ∨ part.written?.map Json.value = some w := by
  cases h with
  | slot hs hd =>
    obtain ⟨hmem, -⟩ := Layout.slot?_eq_some hs
    simp only [layout, List.mem_cons, List.not_mem_nil, or_false] at hmem
    rcases hmem with rfl | rfl | rfl | rfl <;> obtain ⟨a, ha, rfl⟩ := map_eq_ok_iff.1 hd
    · exact .inr (congrArg some (Decoder.value_of_text ha))
    · exact .inr (congrArg some (Decoder.value_of_text ha))
    · exact .inr (congrArg some (Decoder.value_of_text ha))
    · exact Decoder.value_of_optional_text ha
  | other _ ho _ => cases ho

theorem isSome_slot? {key : String} (h : key ∈ keys) : (layout.slot? key).isSome := by
  simp only [keys, List.mem_cons, List.not_mem_nil, or_false] at h
  rcases h with rfl | rfl | rfl | rfl <;> rfl

/-- What an attached tool was stored with under one of its keys is written there. -/
theorem at?_of_decode (h : AttachedTool.decode.ofValue w = .ok t) {key : String} (hkey : key ∈ keys)
    (hs : w.at? [.member key] = some s) (hscalar : s.isScalar) :
    t.json.value.at? [.member key] = some s := by
  rw [JsonValue.at?_cons, JsonValue.child?] at hs ⊢
  obtain ⟨u, hu, hus⟩ := Option.bind_eq_some_iff.1 hs
  obtain rfl : u = s := Option.some.inj hus
  rcases Layout.shape_of_decode h with hw | ⟨hw, -⟩
  · rw [hw] at h
    obtain ⟨parts, hparts⟩ := Layout.decoded_of_record h
    obtain ⟨part, hread, hpart⟩ := hparts.view_of_member (fun t key => t.json.member? key)
      (fun _ _ hread t key => by rw [member?_put, key_of_reads hread]) hu (.inl (isSome_slot? hkey))
    rw [get?_members_json, hpart]
    rcases written?_of_reads hread with hbare | hwritten
    · exact absurd hscalar (hbare.not_isScalar (JsonValue.at?_nil u))
    · rw [hwritten]
      rfl
  · rw [hw] at hu
    cases hu

/-- A written tool holds a text, a number or a truth value under its own keys only. -/
theorem path_of_written (t : AttachedTool) {path : List PathStep}
    (hs : t.json.value.at? path = some s) (hscalar : s.isScalar) :
    ∃ key ∈ keys, path = [.member key] := by
  cases path with
  | nil =>
    obtain rfl : t.json.value = s := Option.some.inj hs
    cases hscalar
  | cons step path =>
    rw [JsonValue.at?_cons] at hs
    cases step with
    | item index => cases hs
    | member key =>
      rw [JsonValue.child?, get?_members_json] at hs
      obtain ⟨u, hu, hs⟩ := Option.bind_eq_some_iff.1 hs
      obtain ⟨j, hj, rfl⟩ := Option.map_eq_some_iff.1 hu
      obtain ⟨hkey, hj⟩ : key ∈ keys ∧ j.value.isScalar := by
        rw [member?_json] at hj
        split_ifs at hj with h₁ h₂ h₃ h₄
        · exact ⟨by simp [h₁, keys], by cases hj; rfl⟩
        · exact ⟨by simp [h₂, keys], by cases hj; rfl⟩
        · exact ⟨by simp [h₃, keys], by cases hj; rfl⟩
        · obtain ⟨s, -, rfl⟩ := Option.map_eq_some_iff.1 hj
          exact ⟨by simp [h₄, keys], rfl⟩
      exact ⟨key, hkey, by rw [JsonValue.path_eq_nil_of_isScalar hj hs]⟩

/-- What is kept of an attached tool that may be missing: what was stored under its own keys. -/
theorem at?_toolJson_iff {tool : Option AttachedTool} {path : List PathStep}
    (h : Decoder.ofValue (Decoder.optional AttachedTool.decode) w = .ok tool)
    (hs : w.at? path = some s) (hscalar : s.isScalar) :
    (NodePayload.toolJson tool).value.at? path = some s ↔ ∃ key ∈ keys, path = [.member key] := by
  unfold Decoder.ofValue Decoder.optional at h
  split at h
  · rename_i hdoc
    have hnull : w.Bare := .inl (JsonValue.document_injective hdoc)
    exact absurd hscalar (hnull.not_isScalar hs)
  · obtain ⟨t, ht, rfl⟩ := map_eq_ok_iff.1 h
    refine ⟨fun hkept => t.path_of_written hkept hscalar, ?_⟩
    rintro ⟨key, hkey, rfl⟩
    exact at?_of_decode ht hkey hs hscalar

end AttachedTool

/-! ### The data of a node -/

theorem Integration.name_of_decodeKey {s : String} {i : Integration} (h : decodeKey s = .ok i) :
    i.name = s := by
  unfold decodeKey Decoder.ofName at h
  split at h
  · rename_i j hj
    cases h
    simpa using List.find?_some hj
  · cases h

namespace NodePayload

variable {p : NodePayload} {data w s : JsonValue}

/-- Staged settings that are decoded are written as the value that they came from. -/
theorem value_of_staged {m : KeyMap Integration StagedValues}
    (h : Decoder.ofValue (Decoder.map Integration.decodeKey (Decoder.map .ok Decoder.text)) w =
      .ok m) : (stagedJson m).value = w :=
  Decoder.value_of_map Integration.name valuesJson (fun _ _ => Integration.name_of_decodeKey)
    (fun _ _ hvalues => Decoder.value_of_map id Json.text
      (fun _ _ hkey => (Except.ok.inj hkey).symm) (fun _ _ => Decoder.value_of_text) hvalues) h

/-- A part that is read from a member with a key other than that of the attached tool is written as
it was stored, if there is anything to it. -/
theorem written?_of_reads {key : String} {part : Part}
    (h : layout.Reads .value (.ok key, w.json.document) (key, part)) (hkey : key ≠ "tool") :
    w.Bare ∨ part.written?.map Json.value = some w := by
  cases h with
  | slot hs hd =>
    obtain ⟨hmem, hslot⟩ := Layout.slot?_eq_some hs
    simp only [layout, List.mem_cons, List.not_mem_nil, or_false] at hmem
    rcases hmem with rfl | rfl | rfl | rfl | rfl <;> obtain ⟨a, ha, rfl⟩ := map_eq_ok_iff.1 hd
    · exact .inr (congrArg some (Decoder.value_of_text ha))
    · exact .inr (congrArg some (Decoder.value_of_text ha))
    · exact Decoder.value_of_optional_text ha
    · exact absurd hslot.symm hkey
    · have hvalue := value_of_staged ha
      rw [Part.written?, stagedJson?]
      split
      · rename_i hempty
        rw [KeyMap.eq_empty_of_isEmpty hempty] at hvalue
        exact .inl (.inr hvalue.symm)
      · exact .inr (congrArg some hvalue)
  | other hs ho hd =>
    rw [written?_of_reads_other (.other hs ho hd) hs]
    exact .inr (congrArg some w.value_json)

/-- What the data was stored with under a key other than that of the attached tool is written
there. -/
theorem at?_of_decode (h : NodePayload.decode.ofValue data = .ok p) (hp : p.Separate) {key : String}
    (hkey : key ≠ "tool") {path : List PathStep}
    (hs : data.at? (.member key :: path) = some s) (hscalar : s.isScalar) :
    p.json.value.at? (.member key :: path) = some s := by
  rw [JsonValue.at?_cons, JsonValue.child?] at hs ⊢
  obtain ⟨w, hw, hs⟩ := Option.bind_eq_some_iff.1 hs
  obtain ⟨part, hread, hwritten⟩ := written?_of_decode h hw
  rw [get?_members_json hp, hwritten]
  rcases written?_of_reads hread hkey with hbare | hpart
  · exact absurd hscalar (hbare.not_isScalar hs)
  · rw [hpart, Option.bind_some, hs]

/-- What is kept under the key of the attached tool is what was stored under its own keys. -/
theorem at?_tool_iff (h : NodePayload.decode.ofValue data = .ok p) (hp : p.Separate)
    {path : List PathStep} (hs : data.at? (.member "tool" :: path) = some s)
    (hscalar : s.isScalar) :
    p.json.value.at? (.member "tool" :: path) = some s ↔
      ∃ key ∈ AttachedTool.keys, path = [.member key] := by
  rw [JsonValue.at?_cons, JsonValue.child?] at hs ⊢
  obtain ⟨w, hw, hs⟩ := Option.bind_eq_some_iff.1 hs
  obtain ⟨part, hread, hwritten⟩ := written?_of_decode h hw
  cases hread with
  | slot hslot hd =>
    cases hslot
    obtain ⟨tool, htool, rfl⟩ := map_eq_ok_iff.1 hd
    rw [get?_members_json hp, hwritten, Part.written?, Option.map_some, Option.bind_some]
    exact AttachedTool.at?_toolJson_iff htool hs hscalar
  | other hslot _ _ => cases hslot

/-- Of the way to a staged setting nothing but its end is a text, and nothing stands behind it. -/
theorem isScalar_of_staged (h : p.Separate) {i : Integration} {key : String}
    (hs : p.json.value.at? [.member "toolOperation", .member i.name, .member key] = some s) :
    s.isScalar := by
  rw [JsonValue.at?_cons, JsonValue.child?, get?_members_json h] at hs
  obtain ⟨w, hw, hs⟩ := Option.bind_eq_some_iff.1 hs
  obtain ⟨j, hj, rfl⟩ := Option.map_eq_some_iff.1 hw
  rw [eq_stagedJson_of_written hj, JsonValue.at?_cons, JsonValue.child?,
    get?_members_stagedJson] at hs
  obtain ⟨w, hw, hs⟩ := Option.bind_eq_some_iff.1 hs
  obtain ⟨values, -, rfl⟩ := Option.map_eq_some_iff.1 hw
  rw [JsonValue.at?_cons, JsonValue.child?, get?_members_valuesJson] at hs
  obtain ⟨w, hw, hs⟩ := Option.bind_eq_some_iff.1 hs
  obtain ⟨x, -, rfl⟩ := Option.map_eq_some_iff.1 hw
  obtain rfl : (Json.text x).value = s := Option.some.inj hs
  rfl

end NodePayload

/-! ### Nodes -/

namespace FlowNode

/-- The path leads into the attached tool, but not to one of the members that a tool is known to
have. -/
def Unkept (path : List PathStep) : Prop :=
  ∃ rest, path = .member "tool" :: rest ∧
    ∀ key ∈ ["id", "name", "description", "type"], rest ≠ [.member key]

theorem not_unkept_tool_iff {rest : List PathStep} :
    ¬ Unkept (.member "tool" :: rest) ↔ ∃ key ∈ AttachedTool.keys, rest = [.member key] := by
  constructor
  · intro h
    by_contra hnone
    exact h ⟨rest, rfl, fun key hkey heq => hnone ⟨key, hkey, heq⟩⟩
  · rintro ⟨key, hkey, rfl⟩ ⟨rest, heq, hrest⟩
    cases heq
    exact hrest key hkey rfl

/-- **A text, a number or a truth value in the data of a stored node is where it was after an edit,
if and only if its path does not lead into the rest of the attached tool.** The path of the edit
itself is left aside. -/
theorem scalar_kept_iff {v : JsonValue} {n : FlowNode} (hv : FlowNode.decode.ofValue v = .ok n)
    (i : Integration) (key x : String) :
    ∃ data, storedData? v = some data ∧ ∀ path s, data.at? path = some s → s.isScalar →
      path ≠ [.member "toolOperation", .member i.name, .member key] →
        ((n.stage i key x).json.value.at? (.member "data" :: path) = some s ↔ ¬ Unkept path) := by
  have hseparate : n.payload.Separate := separate_of_decode hv
  obtain ⟨data, hdata, hp⟩ := exists_storedData hv
  refine ⟨data, hdata, fun path s hs hscalar hpath => ?_⟩
  -- the data is a record, so the path begins with a key of it
  obtain ⟨first, rest, rfl⟩ : ∃ first rest, path = .member first :: rest := by
    rw [NodePayload.eq_record_of_decode hp] at hs
    cases path with
    | nil =>
      obtain rfl := Option.some.inj hs
      cases hscalar
    | cons step rest =>
      cases step with
      | item index => cases hs
      | member first => exact ⟨first, rest, rfl⟩
  by_cases hfirst : first = "tool"
  · subst hfirst
    have hsame : (n.stage i key x).json.value.at? (.member "data" :: .member "tool" :: rest) =
        n.payload.json.value.at? (.member "tool" :: rest) := by
      rw [at?_data, payload_stage, JsonValue.at?_cons, JsonValue.at?_cons, JsonValue.child?,
        JsonValue.child?, NodePayload.get?_members_json hseparate,
        NodePayload.get?_members_json (NodePayload.separate_stage hseparate i key x),
        NodePayload.written?_stage_of_ne _ _ _ _ (by decide)]
    rw [hsame, NodePayload.at?_tool_iff hp hseparate hs hscalar, not_unkept_tool_iff]
  · have hkept : ¬ Unkept (.member first :: rest) := by
      rintro ⟨rest', heq, -⟩
      cases heq
      exact hfirst rfl
    have hbefore := NodePayload.at?_of_decode hp hseparate hfirst hs hscalar
    refine iff_of_true ?_ hkept
    rw [at?_data, payload_stage, NodePayload.json_stage hseparate]
    exact JsonValue.at?_setAt_of_isScalar (NodePayload.clear_json hseparate i key)
      (fun w hw => NodePayload.isScalar_of_staged hseparate hw) hbefore hscalar hpath _

/-- The stored node `storedAgent`, with an icon that its tool was given elsewhere. -/
def storedIconAgent : JsonValue :=
  (Json.record [("id", .text "node-7"), ("type", .text "agent"),
    ("data", .record [("type", .text "agent"),
      ("tool", .record [("id", .text "t1"), ("name", .text "CRM"), ("icon", .text "cloud")]),
      ("toolOperation", .record [("sap", .record [])]),
      ("node", .record [("systemPrompt", .text "be brief")])])]).value

theorem scalar_kept_iff_iconAgent :
    FlowNode.decode.ofValue storedIconAgent = .ok agent ∧
      ∃ data, storedData? storedIconAgent = some data ∧ ∀ path s, data.at? path = some s →
        s.isScalar → path ≠ [.member "toolOperation", .member "sap", .member "functionName"] →
          ((agent.stage .sap "functionName" "BAPI_X").json.value.at? (.member "data" :: path) =
            some s ↔ ¬ Unkept path) :=
  have hv : FlowNode.decode.ofValue storedIconAgent = .ok agent := rfl
  ⟨hv, scalar_kept_iff hv .sap "functionName" "BAPI_X"⟩

/-- The icon of the tool is not kept. -/
theorem not_kept_iconAgent :
    FlowNode.decode.ofValue storedIconAgent = .ok agent ∧
      ∃ data, storedData? storedIconAgent = some data ∧
        ∃ path s, data.at? path = some s ∧ s.isScalar ∧
          path ≠ [.member "toolOperation", .member "sap", .member "functionName"] ∧
            (agent.stage .sap "functionName" "BAPI_X").json.value.at? (.member "data" :: path) ≠
              some s := by
  refine ⟨rfl, _, rfl, [.member "tool", .member "icon"], (Json.text "cloud").value, rfl, rfl,
    by decide, ?_⟩
  intro h
  cases h

end FlowNode

end ToolAuthoring
