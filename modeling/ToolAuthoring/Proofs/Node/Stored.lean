import ToolAuthoring.Proofs.Json.Decoded
import ToolAuthoring.Proofs.Node.RoundTrip

/-!
# What is kept of a stored node

The data of a node is written under a few keys with a type of their own and under the keys of all
other members.  What is written under a key that the data was stored with can be read off the member
that was stored there: it is the same, or null has been left out, or it is an attached tool, of
which only some members are kept.

* `NodePayload.written?`: what is written for each key of the data; `NodePayload.get?_members_json`:
  so it is found in the value of the data.
* `NodePayload.written?_of_decode`: **what is written for a key comes from the member that was
  stored there**.
* `FlowNode.storedData?`: the data of a stored node; `FlowNode.exists_storedData`: it is decoded to
  the payload.
-/

namespace ToolAuthoring

theorem lookupEntry_optional (k key : String) (o : Option String) :
    lookupEntry key (o.toList.map fun s => (k, Json.text s)) =
      if key = k then o.map .text else none := by
  cases o <;> simp [lookupEntry_cons_eq]

namespace NodePayload

/-! ### What is written for each key -/

/-- The attached tool, or null. -/
def toolJson : Option AttachedTool → Json
  | some t => t.json
  | none => .null

/-- The staged settings, which are left out if they are of no integration. -/
def stagedJson? (m : KeyMap Integration StagedValues) : Option Json :=
  if m.isEmpty then none else some (stagedJson m)

/-- The staged settings of one integration. -/
def valuesJson (values : StagedValues) : Json :=
  .record (values.mapValues .text).entries

/-- The keys of the members with a type of their own. -/
def typedKeys : List String := ["type", "label", "description", "tool", "toolOperation"]

theorem slot?_eq_none_iff {key : String} : layout.slot? key = none ↔ key ∉ typedKeys := by
  simp [Layout.slot?, layout, typedKeys, @eq_comm _ _ key]

/-- What is written for a key of the data, if anything is. -/
def written? (p : NodePayload) (key : String) : Option Json :=
  if key = "type" then some (.text p.type)
  else if key = "label" then some (.text p.label)
  else if key = "description" then p.description.map .text
  else if key = "tool" then some (toolJson p.tool)
  else if key = "toolOperation" then stagedJson? p.staged
  else (p.extra.get? key).map JsonValue.json

theorem written?_of_other (p : NodePayload) {key : String} (h : key ∉ typedKeys) :
    p.written? key = (p.extra.get? key).map JsonValue.json := by
  simp only [typedKeys, List.mem_cons, List.not_mem_nil, not_or] at h
  simp [written?, h]

variable {p : NodePayload}

/-- A key of a member with a type of its own is no key of another member. -/
theorem extra_get?_eq_none (h : p.Separate) {key : String} (hk : key ∈ typedKeys) :
    p.extra.get? key = none := by
  cases he : p.extra.get? key with
  | none => rfl
  | some v =>
    have hs := h key (List.mem_map_of_mem (KeyMap.mem_entries_iff.2 he))
    exact absurd hk (slot?_eq_none_iff.1 hs)

theorem members_eq (p : NodePayload) : p.members =
    [("type", .text p.type), ("label", .text p.label)]
      ++ (p.description.toList.map fun s => ("description", .text s)) ++ [("tool", toolJson p.tool)]
      ++ (if p.staged.isEmpty then [] else [("toolOperation", stagedJson p.staged)])
      ++ (p.extra.mapValues JsonValue.json).entries := by
  cases h : p.tool <;> simp [members, toolJson, h]

theorem member?_json (h : p.Separate) (key : String) : p.json.member? key = p.written? key := by
  have hextra : lookupEntry key (p.extra.mapValues JsonValue.json).entries =
      (p.extra.get? key).map JsonValue.json := KeyMap.get?_mapValues _ _ _
  have hstaged : lookupEntry key
      (if p.staged.isEmpty then [] else [("toolOperation", stagedJson p.staged)]) =
        if key = "toolOperation" then stagedJson? p.staged else none := by
    unfold stagedJson?
    split <;> simp [lookupEntry_cons_eq]
  show lookupEntry key p.members = p.written? key
  simp only [members_eq, lookupEntry_append, hextra, lookupEntry_optional, hstaged,
    lookupEntry_cons_eq, lookupEntry_nil]
  by_cases hk : key ∈ typedKeys
  · rw [extra_get?_eq_none h hk]
    simp only [typedKeys, List.mem_cons, List.not_mem_nil, or_false] at hk
    rcases hk with rfl | rfl | rfl | rfl | rfl <;> simp [written?]
  · rw [written?_of_other p hk]
    simp only [typedKeys, List.mem_cons, List.not_mem_nil, not_or] at hk
    simp [hk]

theorem get?_members_json (h : p.Separate) (key : String) :
    p.json.value.members.get? key = (p.written? key).map Json.value :=
  (Json.get?_members_value p.json (nodup_keys_members h) key).trans
    (congrArg (Option.map Json.value) (member?_json h key))

/-! ### What was stored -/

/-- What is written for a part, if anything is. -/
def Part.written? : Part → Option Json
  | .type s => some (.text s)
  | .label s => some (.text s)
  | .description s => s.map .text
  | .tool t => some (toolJson t)
  | .staged m => stagedJson? m
  | .extra _ v => some v.json

/-- A part is read under its own key, and a part of another member under none with a type. -/
theorem key_of_reads {origin : Origin} {m : Except SyntaxError String × Document}
    {p : String × Part} (h : layout.Reads origin m p) :
    p.2.key = p.1 ∧ ∀ key v, p.2 = .extra key v → key ∉ typedKeys := by
  cases h with
  | @slot key d slot part hs hd =>
    obtain ⟨hmem, hkey⟩ := Layout.slot?_eq_some hs
    simp only [layout, List.mem_cons, List.not_mem_nil, or_false] at hmem
    rcases hmem with rfl | rfl | rfl | rfl | rfl <;>
      obtain ⟨a, -, rfl⟩ := map_eq_ok_iff.1 hd <;>
      refine ⟨hkey, fun key' v' heq => ?_⟩ <;> cases heq
  | @other key d keep part hs ho hd =>
    cases ho
    obtain ⟨v, -, rfl⟩ := map_eq_ok_iff.1 hd
    refine ⟨rfl, fun key' v' heq => ?_⟩
    cases heq
    exact slot?_eq_none_iff.1 hs

theorem written?_put_self {part : Part} (h : ∀ key v, part = .extra key v → key ∉ typedKeys)
    (p : NodePayload) : (put p part).written? part.key = part.written? := by
  cases part with
  | extra key v =>
    rw [Part.key, written?_of_other _ (h key v rfl), put, KeyMap.get?_insert_self]
    rfl
  | _ => simp [written?, put, Part.key, Part.written?]

theorem written?_put_of_ne {part : Part} {key : String} (h : key ≠ part.key) (p : NodePayload) :
    (put p part).written? key = p.written? key := by
  cases part with
  | extra key' v =>
    simp only [written?, put, KeyMap.get?_insert_of_ne _ (show key ≠ key' from h)]
  | _ =>
    rw [Part.key] at h
    simp [written?, put, h]

/-- A part is written under its key, and under all other keys the data is written as before. -/
theorem written?_put {origin : Origin} {m : Except SyntaxError String × Document}
    {q : String × Part} (h : layout.Reads origin m q) (p : NodePayload) (key : String) :
    (put p q.2).written? key = if key = q.1 then q.2.written? else p.written? key := by
  obtain ⟨hkey, hother⟩ := key_of_reads h
  split
  · rename_i heq
    rw [heq, ← hkey, written?_put_self hother]
  · rename_i hne
    exact written?_put_of_ne (hkey ▸ hne) p

variable {data : JsonValue}

theorem eq_record_of_decode (h : NodePayload.decode.ofValue data = .ok p) :
    data = .record data.members := by
  rcases Layout.shape_of_decode h with hdata | ⟨-, ho⟩
  · exact hdata
  · cases ho

/-- **What is written for a key comes from the member that was stored there.** -/
theorem written?_of_decode (h : NodePayload.decode.ofValue data = .ok p) {key : String}
    {w : JsonValue} (hw : data.members.get? key = some w) :
    ∃ part, layout.Reads .value (.ok key, w.json.document) (key, part) ∧
      p.written? key = part.written? := by
  rw [eq_record_of_decode h] at h
  obtain ⟨parts, hparts⟩ := Layout.decoded_of_record h
  exact hparts.view_of_member written? (fun _ _ hread p key => written?_put hread p key) hw
    (.inr rfl)

/-- A member without a type of its own is written as it was stored. -/
theorem written?_of_reads_other {key : String} {w : JsonValue} {part : Part}
    (h : layout.Reads .value (.ok key, w.json.document) (key, part))
    (hkey : layout.slot? key = none) : part.written? = some w.json := by
  cases h with
  | slot hs _ =>
    rw [hkey] at hs
    cases hs
  | other _ ho hd =>
    cases ho
    obtain ⟨v, hv, rfl⟩ := map_eq_ok_iff.1 hd
    rw [Decoder.value, Document.value_document] at hv
    cases hv
    rfl

theorem written?_of_decode_other (h : NodePayload.decode.ofValue data = .ok p) {key : String}
    (hkey : key ∉ typedKeys) {w : JsonValue} (hw : data.members.get? key = some w) :
    p.written? key = some w.json := by
  obtain ⟨part, hread, hwritten⟩ := written?_of_decode h hw
  rw [hwritten, written?_of_reads_other hread (slot?_eq_none_iff.2 hkey)]

end NodePayload

/-! ### The data of a stored node -/

namespace FlowNode

theorem nodup_keys (n : FlowNode) : (n.json.members.map (·.1)).Nodup := by
  simp [json, Json.members]

/-- Every path into a node that goes through its data is a path into its data. -/
theorem at?_data (n : FlowNode) (path : List PathStep) :
    n.json.value.at? (.member "data" :: path) = n.payload.json.value.at? path := by
  have hdata : n.json.value.members.get? "data" = some n.payload.json.value := by
    rw [Json.get?_members_value n.json n.nodup_keys, member?_data, Option.map_some]
  rw [JsonValue.at?_cons, JsonValue.child?, hdata, Option.bind_some]

/-- The data of a stored node: its member `data` or, where the node is stored as the list of its
members, the third item. -/
def storedData? (v : JsonValue) : Option JsonValue :=
  (v.members.get? "data").or v.items[2]?

variable {n : FlowNode} {v : JsonValue}

theorem payload_of_decoded {members : KeyMap String JsonValue} {parts : List (String × Part)}
    {n₀ : FlowNode} {p : NodePayload} (h : layout.Decoded n₀ put members parts n)
    (hp : ("data", .payload p) ∈ parts) : n.payload = p := by
  refine h.view_eq FlowNode.payload hp (fun _ => rfl) fun q hq hne b => ?_
  obtain ⟨w, -, hread⟩ := h.read q hq
  obtain ⟨key, part⟩ := q
  cases hread with
  | @slot _ _ slot _ hs hd =>
    obtain ⟨hmem, hkey⟩ := Layout.slot?_eq_some hs
    simp only [layout, List.mem_cons, List.not_mem_nil, or_false] at hmem
    rcases hmem with rfl | rfl | rfl | rfl <;> obtain ⟨a, -, rfl⟩ := map_eq_ok_iff.1 hd
    · rfl
    · rfl
    · exact absurd hkey.symm hne
    · rfl
  | other _ ho _ => cases ho

theorem exists_data_of_record {members : KeyMap String JsonValue}
    (h : FlowNode.decode.ofValue (.record members) = .ok n) :
    ∃ data, members.get? "data" = some data ∧
      NodePayload.decode.ofValue data = .ok n.payload := by
  obtain ⟨parts, hparts⟩ := Layout.decoded_of_record h
  obtain ⟨slot, hslot, hkey, hr⟩ :
      ∃ slot ∈ layout.slots, slot.key = "data" ∧ slot.required = true := by simp [layout]
  obtain ⟨part, hpart⟩ := hparts.exists_part hslot hr
  rw [hkey] at hpart
  obtain ⟨data, hdata, hread⟩ := hparts.read _ hpart
  refine ⟨data, hdata, ?_⟩
  cases hread with
  | slot hs hd =>
    cases hs
    obtain ⟨p, hp, rfl⟩ := map_eq_ok_iff.1 hd
    rw [payload_of_decoded hparts hpart]
    exact hp
  | other _ ho _ => cases ho

theorem exists_data_of_list {items : List JsonValue}
    (h : FlowNode.decode.ofValue (.list items) = .ok n) :
    ∃ data, items[2]? = some data ∧ NodePayload.decode.ofValue data = .ok n.payload := by
  rw [Decoder.ofValue, JsonValue.document_list] at h
  obtain ⟨parts, hparts, hmade⟩ := bind_eq_ok_iff.1 h
  cases hmade
  -- the first three items are those of the members that must be there
  obtain ⟨d₁, ds, part₁, parts, hds, rfl, hid, h₁⟩ := Layout.readItems_required hparts rfl
  obtain ⟨d₂, ds, part₂, parts, rfl, rfl, htype, h₂⟩ := Layout.readItems_required h₁ rfl
  obtain ⟨d₃, ds, part₃, parts, rfl, rfl, hdata, h₃⟩ := Layout.readItems_required h₂ rfl
  obtain ⟨id, -, rfl⟩ := map_eq_ok_iff.1 hid
  obtain ⟨type, -, rfl⟩ := map_eq_ok_iff.1 htype
  obtain ⟨p, hp, rfl⟩ := map_eq_ok_iff.1 hdata
  have hthird : items[2]?.map (fun v => v.json.document) = some d₃ := by
    rw [← List.getElem?_map, hds]
    rfl
  obtain ⟨data, hitem, rfl⟩ := Option.map_eq_some_iff.1 hthird
  refine ⟨data, hitem, hp.trans (congrArg Except.ok ?_)⟩
  -- what may follow is a place
  rcases Layout.readItems_cases h₃ with ⟨-, -, hrest⟩ | ⟨d₄, _, part₄, _, -, rfl, hplace, hrest⟩
  · obtain rfl := Layout.eq_nil_of_readItems hrest
    rfl
  · obtain rfl := Layout.eq_nil_of_readItems hrest
    obtain ⟨place, -, rfl⟩ := map_eq_ok_iff.1 hplace
    rfl

theorem exists_storedData (h : FlowNode.decode.ofValue v = .ok n) :
    ∃ data, storedData? v = some data ∧ NodePayload.decode.ofValue data = .ok n.payload := by
  rcases Layout.shape_of_decode h with hv | ⟨hv, -⟩
  · rw [hv] at h ⊢
    obtain ⟨data, hdata, hp⟩ := exists_data_of_record h
    exact ⟨data, by simp [storedData?, hdata], hp⟩
  · rw [hv] at h ⊢
    obtain ⟨data, hdata, hp⟩ := exists_data_of_list h
    exact ⟨data, by simp [storedData?, hdata], hp⟩

end FlowNode

end ToolAuthoring
