import ToolAuthoring.Proofs.Node.Stored

/-!
# Staging a setting sets one path

A node whose settings are changed is written as before but for one text, which stands below
`data.toolOperation`, the integration and the key of the setting.  The records on the way there are
made if the node had nothing staged.  The members of the data without a type of their own are
written as they were stored.

* `NodePayload.stagedJson_insert`, `NodePayload.json_stage`, `FlowNode.json_stage`: one more setting,
  seen from the staged settings, from the data and from the node.
* `NodePayload.clear_json`, `FlowNode.clear_json`: no list is in the way of it.
* `FlowNode.stage_sets_path`: **staging a setting sets the path of the setting and nothing else**.
-/

namespace ToolAuthoring

theorem Integration.name_injective (i j : Integration) (h : i.name = j.name) : i = j := by
  cases i <;> cases j <;> first | rfl | exact absurd h (by decide)

namespace NodePayload

variable {p : NodePayload}

/-! ### One more staged setting -/

theorem member?_valuesJson (values : StagedValues) (key : String) :
    (valuesJson values).member? key = (values.get? key).map .text :=
  KeyMap.get?_mapValues _ _ _

theorem nodup_valuesJson (values : StagedValues) :
    ((values.mapValues Json.text).entries.map (·.1)).Nodup :=
  (values.mapValues Json.text).keys_nodup

theorem valuesJson_insert (values : StagedValues) (key x : String) :
    (valuesJson (values.insert key x)).value =
      (valuesJson values).value.setAt [key] (Json.text x).value := by
  refine Json.value_eq_setAt (j := .text x) (nodup_valuesJson _) (nodup_valuesJson _) ?_ rfl ?_
  · exact (member?_valuesJson _ _).trans (by rw [KeyMap.get?_insert_self, Option.map_some])
  · intro other hother
    show (valuesJson _).member? other = (valuesJson _).member? other
    rw [member?_valuesJson, member?_valuesJson, KeyMap.get?_insert_of_ne _ hother]

theorem member?_stagedJson (m : KeyMap Integration StagedValues) (i : Integration) :
    (stagedJson m).member? i.name = (m.get? i).map valuesJson :=
  lookupEntry_map_name Integration.name_injective valuesJson i m.entries

/-- Only names of integrations are written. -/
theorem member?_stagedJson_eq_none (m : KeyMap Integration StagedValues) {key : String}
    (h : ∀ i : Integration, i.name ≠ key) : (stagedJson m).member? key = none := by
  refine lookupEntry_of_not_mem fun hmem => ?_
  obtain ⟨e, he, rfl⟩ := List.mem_map.1 hmem
  obtain ⟨⟨i, values⟩, -, rfl⟩ := List.mem_map.1 he
  exact h i rfl

theorem nodup_stagedJson (m : KeyMap Integration StagedValues) :
    ((m.entries.map fun e => (e.1.name, valuesJson e.2)).map (·.1)).Nodup := by
  have hn : ((m.entries.map (·.1)).map Integration.name).Nodup :=
    m.keys_nodup.map fun i j => Integration.name_injective i j
  rwa [List.map_map] at hn ⊢

theorem stagedJson_insert (m : KeyMap Integration StagedValues) (i : Integration)
    (key x : String) :
    (stagedJson (m.insert i (((m.get? i).getD .empty).insert key x))).value =
      (stagedJson m).value.setAt [i.name, key] (Json.text x).value := by
  refine Json.value_eq_setAt (j := valuesJson (((m.get? i).getD .empty).insert key x))
    (nodup_stagedJson _) (nodup_stagedJson _) ?_ ?_ ?_
  · exact (member?_stagedJson _ _).trans (by rw [KeyMap.get?_insert_self, Option.map_some])
  · show _ = ((((stagedJson m).member? i.name).map Json.value).getD (.record .empty)).setAt _ _
    rw [valuesJson_insert, member?_stagedJson]
    cases m.get? i <;> rfl
  · intro other hother
    show (stagedJson _).member? other = (stagedJson m).member? other
    by_cases hname : ∃ j : Integration, j.name = other
    · obtain ⟨j, rfl⟩ := hname
      have hj : j ≠ i := fun h => hother (congrArg Integration.name h)
      rw [member?_stagedJson, member?_stagedJson, KeyMap.get?_insert_of_ne _ hj]
    · rw [not_exists] at hname
      rw [member?_stagedJson_eq_none _ hname, member?_stagedJson_eq_none _ hname]

/-! ### The way to a staged setting -/

theorem get?_members_valuesJson (values : StagedValues) (key : String) :
    (valuesJson values).value.members.get? key =
      (values.get? key).map fun s => (Json.text s).value := by
  calc (valuesJson values).value.members.get? key
      = ((valuesJson values).member? key).map Json.value :=
        Json.get?_members_value (valuesJson values) (nodup_valuesJson values) key
    _ = _ := by rw [member?_valuesJson, Option.map_map]; rfl

theorem get?_members_stagedJson (m : KeyMap Integration StagedValues) (i : Integration) :
    (stagedJson m).value.members.get? i.name =
      (m.get? i).map fun values => (valuesJson values).value := by
  calc (stagedJson m).value.members.get? i.name
      = ((stagedJson m).member? i.name).map Json.value :=
        Json.get?_members_value (stagedJson m) (nodup_stagedJson m) i.name
    _ = _ := by rw [member?_stagedJson, Option.map_map]; rfl

/-- No list stands on the way to a staged setting. -/
theorem clear_stagedJson (m : KeyMap Integration StagedValues) (i : Integration) (key : String) :
    (stagedJson m).value.Clear [i.name, key] := by
  refine ⟨Json.value_record _, fun w hw => ?_⟩
  rw [get?_members_stagedJson] at hw
  obtain ⟨values, -, rfl⟩ := Option.map_eq_some_iff.1 hw
  exact ⟨Json.value_record _, fun _ _ => trivial⟩

theorem eq_stagedJson_of_written {j : Json} (h : p.written? "toolOperation" = some j) :
    j = stagedJson p.staged := by
  have hj : stagedJson? p.staged = some j := h
  unfold stagedJson? at hj
  split at hj
  · cases hj
  · exact (Option.some.inj hj).symm

theorem clear_json (h : p.Separate) (i : Integration) (key : String) :
    p.json.value.Clear ["toolOperation", i.name, key] := by
  refine ⟨Json.value_record _, fun w hw => ?_⟩
  rw [get?_members_json h] at hw
  obtain ⟨j, hj, rfl⟩ := Option.map_eq_some_iff.1 hw
  rw [eq_stagedJson_of_written hj]
  exact clear_stagedJson p.staged i key

/-- The data with one more setting staged. -/
def stage (p : NodePayload) (i : Integration) (key x : String) : NodePayload :=
  { p with staged := p.staged.insert i (((p.staged.get? i).getD .empty).insert key x) }

theorem separate_stage (h : p.Separate) (i : Integration) (key x : String) :
    (p.stage i key x).Separate := h

theorem written?_stage_of_ne (p : NodePayload) (i : Integration) (key x : String) {other : String}
    (h : other ≠ "toolOperation") : (p.stage i key x).written? other = p.written? other := by
  simp [written?, stage, h]

theorem written?_stage (p : NodePayload) (i : Integration) (key x : String) :
    (p.stage i key x).written? "toolOperation" =
      some (stagedJson (p.staged.insert i (((p.staged.get? i).getD .empty).insert key x))) := by
  simp [written?, stagedJson?, stage]

/-- Nothing is written for staged settings of no integration, and the record that is made in its
place is theirs. -/
theorem written?_staged (p : NodePayload) :
    ((p.written? "toolOperation").map Json.value).getD (.record .empty) =
      (stagedJson p.staged).value := by
  cases h : p.staged.isEmpty with
  | true =>
    have hnone : p.written? "toolOperation" = none := by simp [written?, stagedJson?, h]
    rw [hnone, KeyMap.eq_empty_of_isEmpty h]
    rfl
  | false => simp [written?, stagedJson?, h]

theorem json_stage (h : p.Separate) (i : Integration) (key x : String) :
    (p.stage i key x).json.value =
      p.json.value.setAt ["toolOperation", i.name, key] (Json.text x).value := by
  have h' := separate_stage h i key x
  refine Json.value_eq_setAt (nodup_keys_members h) (nodup_keys_members h')
    ((member?_json h' _).trans (p.written?_stage i key x)) ?_ fun other hother => ?_
  · show _ = (((p.json.member? _).map Json.value).getD _).setAt _ _
    rw [member?_json h, written?_staged, stagedJson_insert]
  · show (p.stage i key x).json.member? other = p.json.member? other
    rw [member?_json h', member?_json h, p.written?_stage_of_ne i key x hother]

end NodePayload

/-! ### Nodes -/

namespace FlowNode

variable {n : FlowNode}

theorem member?_of_ne (n n' : FlowNode) (hid : n'.id = n.id) (htype : n'.type = n.type)
    (hplace : n'.place = n.place) {key : String} (h : key ≠ "data") :
    n'.json.member? key = n.json.member? key := by
  simp [Json.member?, json, Json.members, lookupEntry_cons_eq, hid, htype, hplace, h]

theorem payload_stage (n : FlowNode) (i : Integration) (key x : String) :
    (n.stage i key x).payload = n.payload.stage i key x := rfl

theorem json_stage (h : n.payload.Separate) (i : Integration) (key x : String) :
    (n.stage i key x).json.value =
      n.json.value.setAt ["data", "toolOperation", i.name, key] (Json.text x).value := by
  refine Json.value_eq_setAt n.nodup_keys (n.stage i key x).nodup_keys
    (member?_data (n.stage i key x)) ?_ fun other hother => ?_
  · show _ = (((n.json.member? _).map Json.value).getD _).setAt _ _
    rw [member?_data]
    exact NodePayload.json_stage h i key x
  · exact member?_of_ne n (n.stage i key x) rfl rfl rfl hother

/-- No list stands on the way to a staged setting. -/
theorem clear_json (h : n.payload.Separate) (i : Integration) (key : String) :
    n.json.value.Clear ["data", "toolOperation", i.name, key] := by
  refine ⟨Json.value_record _, fun data hdata => ?_⟩
  have hd := n.at?_data []
  rw [JsonValue.at?_cons, JsonValue.child?, hdata] at hd
  obtain rfl : data = n.payload.json.value := Option.some.inj hd
  exact NodePayload.clear_json h i key

/-- **Staging a setting sets the path of the setting and nothing else.** The node is written with
the text at its place below the staged settings, every path that does not meet that place leads to
what it led to, and the members of the data without a type of their own are as they were stored. -/
theorem stage_sets_path {v : JsonValue} {n : FlowNode} (hv : FlowNode.decode.ofValue v = .ok n)
    (i : Integration) (key x : String) :
    let place := ["data", "toolOperation", i.name, key]
    let before := n.json.value
    let after := (n.stage i key x).json.value
    after = before.setAt place (Json.text x).value ∧
      after.at? (place.map .member) = some (Json.text x).value ∧
      (∀ path, JsonValue.Apart path (place.map .member) → after.at? path = before.at? path) ∧
      ∃ data, storedData? v = some data ∧
        ∀ other w, other ∉ ["type", "label", "description", "tool", "toolOperation"] →
          data.members.get? other = some w →
            after.at? [.member "data", .member other] = some w := by
  intro place before after
  have hseparate : n.payload.Separate := separate_of_decode hv
  have hset : after = before.setAt place (Json.text x).value := json_stage hseparate i key x
  obtain ⟨data, hdata, hp⟩ := exists_storedData hv
  refine ⟨hset, ?_, fun path hpath => ?_, data, hdata, fun other w hother hw => ?_⟩
  · rw [hset]
    exact JsonValue.at?_setAt_self _ _ _
  · rw [hset]
    exact JsonValue.at?_setAt_of_apart (clear_json hseparate i key) hpath _
  · have hwritten := NodePayload.written?_of_decode_other hp hother hw
    have hsame : (n.payload.stage i key x).written? other = n.payload.written? other :=
      n.payload.written?_stage_of_ne i key x fun heq => hother (by simp [heq])
    show (n.stage i key x).json.value.at? _ = _
    rw [at?_data, payload_stage, JsonValue.at?_cons, JsonValue.child?,
      NodePayload.get?_members_json (NodePayload.separate_stage hseparate i key x), hsame, hwritten]
    simp

theorem stage_sets_path_agent :
    FlowNode.decode.ofValue storedAgent = .ok agent ∧
      let place := ["data", "toolOperation", "sap", "functionName"]
      let before := agent.json.value
      let after := (agent.stage .sap "functionName" "BAPI_X").json.value
      after = before.setAt place (Json.text "BAPI_X").value ∧
        after.at? (place.map .member) = some (Json.text "BAPI_X").value ∧
        (∀ path, JsonValue.Apart path (place.map .member) → after.at? path = before.at? path) ∧
        ∃ data, storedData? storedAgent = some data ∧
          ∀ other w, other ∉ ["type", "label", "description", "tool", "toolOperation"] →
            data.members.get? other = some w →
              after.at? [.member "data", .member other] = some w :=
  have hv : FlowNode.decode.ofValue storedAgent = .ok agent := rfl
  ⟨hv, stage_sets_path hv .sap "functionName" "BAPI_X"⟩

end FlowNode

end ToolAuthoring
