import ToolAuthoring.Proofs.Json.Paths

/-!
# What a decoded record was made of

A record that has been decoded from a value says which members the value had: each part that was put
into it was read from a member, and each member with a place in the layout gave a part.  Where a
part shows in the record can then be read off the one member it came from.

* `Layout.ReadsMembers`: members read one after the other, some of them passed over;
  `Layout.readsMembers_of_readMembers`: reading does nothing else.
* `Layout.Decoded`: a record and its parts; `Layout.decoded_of_record`: **whatever is decoded from a
  record was made of parts of its members**.
* `Layout.Decoded.view_eq`, `Layout.Decoded.view_of_member`: a view of the record that only one part
  changes.
* `Decoder.value_of_map`: **a map that is decoded is written as the value that it came from**.
-/

namespace ToolAuthoring

/-! ### Documents of values -/

namespace JsonValue

theorem eq_record_of_json {v : JsonValue} {ms : List (String × Json)} (h : v.json = .record ms) :
    v = .record v.members := by
  rw [← v.value_json, h, Json.value, members_record]

theorem eq_list_of_json {v : JsonValue} {js : List Json} (h : v.json = .list js) :
    v = .list v.items := by
  rw [← v.value_json, h, Json.value, items_list]

theorem document_list (vs : List JsonValue) :
    (list vs).json.document = .list (vs.map fun v => v.json.document) none := by
  simp [list, Json.document, Json.documents_eq_map, Function.comp_def]

theorem document_record (m : KeyMap String JsonValue) : (record m).json.document =
    .record (m.entries.map fun e => (.ok e.1, e.2.json.document)) none := by
  simp [record, Json.document, Json.memberDocuments_eq_map, KeyMap.mapValues, Function.comp_def]

theorem eq_record_of_document {v : JsonValue}
    {ms : List (Except SyntaxError String × Document)} {ending : Option Fault}
    (h : v.json.document = .record ms ending) : v = .record v.members := by
  cases hj : v.json with
  | record members => exact eq_record_of_json hj
  | null | bool | number | text | list =>
    rw [hj] at h
    cases h

theorem eq_list_of_document {v : JsonValue} {ds : List Document} {ending : Option Fault}
    (h : v.json.document = .list ds ending) : v = .list v.items := by
  cases hj : v.json with
  | list js => exact eq_list_of_json hj
  | null | bool | number | text | record =>
    rw [hj] at h
    cases h

theorem document_injective {v w : JsonValue} (h : v.json.document = w.json.document) : v = w := by
  have hw := Document.value_document v
  rw [h, Document.value_document] at hw
  exact (Except.ok.inj hw).symm

end JsonValue

/-- A text that is decoded is written as the value that it came from. -/
theorem Decoder.value_of_text {v : JsonValue} {s : String}
    (h : Decoder.ofValue Decoder.text v = .ok s) : (Json.text s).value = v :=
  (JsonValue.document_injective (Decoder.text_eq_ok_iff.1 h)).symm

/-! ### Reading members -/

namespace Layout

variable {μ α β : Type} {layout : Layout μ} {origin : Origin}

/-- How members are read one after the other. Each gives a part, or is passed over because the
layout has no place for it. -/
inductive ReadsMembers (layout : Layout μ) (origin : Origin) :
    List (Except SyntaxError String × Document) → List (String × μ) → Prop
  | nil : ReadsMembers layout origin [] []
  | read {m : Except SyntaxError String × Document} {p : String × μ}
      {members : List (Except SyntaxError String × Document)} {parts : List (String × μ)}
      (hm : layout.Reads origin m p) (h : ReadsMembers layout origin members parts) :
      ReadsMembers layout origin (m :: members) (p :: parts)
  | pass {key : String} {d : Document}
      {members : List (Except SyntaxError String × Document)} {parts : List (String × μ)}
      (hs : layout.slot? key = none) (ho : layout.others = none)
      (h : ReadsMembers layout origin members parts) :
      ReadsMembers layout origin ((.ok key, d) :: members) parts

theorem slot?_eq_some {key : String} {slot : Slot μ} (h : layout.slot? key = some slot) :
    slot ∈ layout.slots ∧ slot.key = key :=
  ⟨List.mem_of_find?_eq_some h, by simpa using List.find?_some h⟩

theorem readsMembers_of_readMembers {members : List (Except SyntaxError String × Document)}
    {parts : List (String × μ)} {seen : List String}
    (h : layout.readMembers origin seen members = .ok parts) :
    layout.ReadsMembers origin members parts := by
  induction members generalizing seen parts with
  | nil =>
    cases h
    exact .nil
  | cons m members ih =>
    obtain ⟨k, d⟩ := m
    rw [readMembers, bind_eq_ok_iff] at h
    obtain ⟨key, hkey, h⟩ := h
    obtain rfl : k = .ok key := by
      cases k with
      | ok s => exact congrArg Except.ok (Except.ok.inj hkey)
      | error e => cases hkey
    split at h
    · rename_i slot hs
      split at h
      · cases h
      · obtain ⟨part, hd, h⟩ := bind_eq_ok_iff.1 h
        obtain ⟨rest, hrest, h⟩ := bind_eq_ok_iff.1 h
        cases h
        exact .read (.slot hs hd) (ih hrest)
    · rename_i hs
      split at h
      · rename_i keep ho
        obtain ⟨part, hd, h⟩ := bind_eq_ok_iff.1 h
        obtain ⟨rest, hrest, h⟩ := bind_eq_ok_iff.1 h
        cases h
        exact .read (.other hs ho hd) (ih hrest)
      · rename_i ho
        obtain ⟨-, -, h⟩ := bind_eq_ok_iff.1 h
        exact .pass hs ho (ih h)

namespace ReadsMembers

variable {members : List (Except SyntaxError String × Document)} {parts : List (String × μ)}

/-- The keys of the parts are keys of members, in the same order. -/
theorem keys_sublist (h : layout.ReadsMembers origin members parts) :
    (parts.map fun p => (.ok p.1 : Except SyntaxError String)).Sublist (members.map (·.1)) := by
  induction h with
  | nil => exact .slnil
  | read hm _ ih =>
    rw [List.map_cons, List.map_cons, hm.key]
    exact ih.cons_cons _
  | pass _ _ _ ih => exact ih.cons _

theorem exists_member (h : layout.ReadsMembers origin members parts) :
    ∀ p ∈ parts, ∃ m ∈ members, layout.Reads origin m p := by
  induction h with
  | nil => simp
  | read hm _ ih =>
    intro p hp
    rcases List.mem_cons.1 hp with rfl | hp
    · exact ⟨_, List.mem_cons_self, hm⟩
    · obtain ⟨m, hmem, hread⟩ := ih p hp
      exact ⟨m, List.mem_cons_of_mem _ hmem, hread⟩
  | pass _ _ _ ih =>
    intro p hp
    obtain ⟨m, hmem, hread⟩ := ih p hp
    exact ⟨m, List.mem_cons_of_mem _ hmem, hread⟩

/-- Every member with a place in the layout gave a part. -/
theorem exists_part (h : layout.ReadsMembers origin members parts) {key : String} {d : Document}
    (hmem : (.ok key, d) ∈ members)
    (hplace : (layout.slot? key).isSome ∨ layout.others.isSome) :
    ∃ part, (key, part) ∈ parts := by
  induction h with
  | nil => cases hmem
  | @read m p _ _ hm _ ih =>
    rcases List.mem_cons.1 hmem with rfl | hmem
    · obtain rfl : key = p.1 := Except.ok.inj hm.key
      exact ⟨p.2, List.mem_cons_self⟩
    · obtain ⟨part, hpart⟩ := ih hmem
      exact ⟨part, List.mem_cons_of_mem _ hpart⟩
  | pass hs ho _ ih =>
    rcases List.mem_cons.1 hmem with heq | hmem
    · cases heq
      rw [hs, ho] at hplace
      simp at hplace
    · exact ih hmem

end ReadsMembers

/-! ### Decoded records -/

/-- A record that has been decoded, and the parts that it was made of. -/
structure Decoded (layout : Layout μ) (initial : α) (put : α → μ → α)
    (members : KeyMap String JsonValue) (parts : List (String × μ)) (a : α) : Prop where
  made : (parts.map (·.2)).foldl put initial = a
  complete : layout.missing? parts = none
  nodup : (parts.map (·.1)).Nodup
  read : ∀ p ∈ parts, ∃ w, members.get? p.1 = some w ∧
    layout.Reads .value (.ok p.1, w.json.document) p
  placed : ∀ key w, members.get? key = some w →
    (layout.slot? key).isSome ∨ layout.others.isSome → ∃ part, (key, part) ∈ parts

variable {initial a : α} {put : α → μ → α} {members : KeyMap String JsonValue}

/-- A member that must be there gave a part. -/
theorem Decoded.exists_part {parts : List (String × μ)}
    (h : layout.Decoded initial put members parts a) {slot : Slot μ} (hs : slot ∈ layout.slots)
    (hr : slot.required) : ∃ part, (slot.key, part) ∈ parts := by
  have hmissing := List.find?_eq_none.1 (Option.map_eq_none_iff.1 h.complete) slot hs
  rw [hr, Bool.true_and, Bool.not_eq_true', Bool.not_eq_false, List.any_eq_true] at hmissing
  obtain ⟨p, hp, hkey⟩ := hmissing
  obtain hkey : p.1 = slot.key := by simpa using hkey
  exact ⟨p.2, hkey ▸ hp⟩

/-- **Whatever is decoded from a record was made of parts of its members.** -/
theorem decoded_of_record
    (h : Decoder.ofValue (layout.decode initial put) (.record members) = .ok a) :
    ∃ parts, layout.Decoded initial put members parts a := by
  rw [Decoder.ofValue, JsonValue.document_record] at h
  obtain ⟨put', hput, hfold⟩ := bind_eq_ok_iff.1 h
  obtain ⟨parts, hparts, hput⟩ := bind_eq_ok_iff.1 hput
  obtain ⟨-, -, hput⟩ := bind_eq_ok_iff.1 hput
  have hreads := readsMembers_of_readMembers hparts
  split at hput
  · cases hput
  · rename_i hcomplete
    cases hput
    cases hfold
    refine ⟨parts, rfl, hcomplete, ?_, fun p hp => ?_, fun key w hw hplace => ?_⟩
    · have hkeys : (members.entries.map fun e => (.ok e.1 : Except SyntaxError String)).Nodup := by
        have hn := members.keys_nodup.map (f := Except.ok (ε := SyntaxError))
          fun _ _ heq => Except.ok.inj heq
        rwa [KeyMap.keys, List.map_map] at hn
      have hsub := hreads.keys_sublist
      rw [List.map_map] at hsub
      exact List.Nodup.of_map (Except.ok (ε := SyntaxError))
        (by rw [List.map_map]; exact hkeys.sublist hsub)
    · obtain ⟨m, hm, hread⟩ := hreads.exists_member p hp
      obtain ⟨e, he, rfl⟩ := List.mem_map.1 hm
      obtain hkey : e.1 = p.1 := Except.ok.inj hread.key
      refine ⟨e.2, KeyMap.mem_entries_iff.1 ?_, ?_⟩
      · rw [← hkey]
        exact he
      · rw [← hkey]
        exact hread
    · have hmem : (key, w) ∈ members.entries := KeyMap.mem_entries_iff.2 hw
      exact hreads.exists_part (List.mem_map_of_mem hmem) hplace

/-- A record is decoded from a record or, unless other members are kept, from the list of its
members. -/
theorem shape_of_decode {v : JsonValue}
    (h : Decoder.ofValue (layout.decode initial put) v = .ok a) :
    v = .record v.members ∨ v = .list v.items ∧ layout.others = none := by
  obtain ⟨parts, hparts, -⟩ := bind_eq_ok_iff.1 h
  unfold read at hparts
  split at hparts
  · rename_i hdoc
    exact .inl (JsonValue.eq_record_of_document hdoc)
  · rename_i hdoc
    split at hparts
    · cases hparts
    · rename_i hothers
      exact .inr ⟨JsonValue.eq_list_of_document hdoc, by simpa using hothers⟩
  · exact absurd hparts (Document.mismatch_ne_ok _ _ _)

/-- What the first slot of a list makes of the items: there are none left and it may go without, or
it takes the first one. -/
theorem readItems_cases {length : Nat} {ending : Option Fault} {slot : Slot μ}
    {slots : List (Slot μ)} {ds : List Document} {parts : List μ}
    (h : layout.readItems origin length ending (slot :: slots) ds = .ok parts) :
    (ds = [] ∧ slot.required = false ∧
        layout.readItems origin length ending slots [] = .ok parts) ∨
      ∃ d ds' part parts', ds = d :: ds' ∧ parts = part :: parts' ∧
        slot.decode origin d = .ok part ∧
          layout.readItems origin length ending slots ds' = .ok parts' := by
  cases ds with
  | nil =>
    rw [readItems] at h
    obtain ⟨-, -, h⟩ := bind_eq_ok_iff.1 h
    split at h
    · cases h
    · rename_i hr
      exact .inl ⟨rfl, by simpa using hr, h⟩
  | cons d ds =>
    rw [readItems] at h
    obtain ⟨part, hd, h⟩ := bind_eq_ok_iff.1 h
    obtain ⟨parts', hparts, h⟩ := bind_eq_ok_iff.1 h
    cases h
    exact .inr ⟨d, ds, part, parts', rfl, rfl, hd, hparts⟩

theorem readItems_required {length : Nat} {ending : Option Fault} {slot : Slot μ}
    {slots : List (Slot μ)} {ds : List Document} {parts : List μ}
    (h : layout.readItems origin length ending (slot :: slots) ds = .ok parts)
    (hr : slot.required = true) :
    ∃ d ds' part parts', ds = d :: ds' ∧ parts = part :: parts' ∧
      slot.decode origin d = .ok part ∧
        layout.readItems origin length ending slots ds' = .ok parts' := by
  rcases readItems_cases h with ⟨-, hr', -⟩ | hd
  · rw [hr] at hr'
    cases hr'
  · exact hd

theorem eq_nil_of_readItems {length : Nat} {ending : Option Fault} {ds : List Document}
    {parts : List μ} (h : layout.readItems origin length ending [] ds = .ok parts) :
    parts = [] := by
  rw [readItems] at h
  obtain ⟨-, -, h⟩ := bind_eq_ok_iff.1 h
  exact (Except.ok.inj h).symm

theorem view_foldl_of_keeps {view : α → β} {parts : List (String × μ)}
    (h : ∀ p ∈ parts, ∀ b, view (put b p.2) = view b) :
    view ((parts.map (·.2)).foldl put initial) = view initial := by
  induction parts generalizing initial with
  | nil => rfl
  | cons p parts ih =>
    obtain ⟨hp, hrest⟩ := List.forall_mem_cons.1 h
    rw [List.map_cons, List.foldl_cons, ih hrest, hp]

/-- A view of a record that only the part with one key changes shows that part. -/
theorem view_foldl {view : α → β} {parts : List (String × μ)} (hn : (parts.map (·.1)).Nodup)
    {key : String} {part : μ} (hpart : (key, part) ∈ parts) {x : β}
    (hself : ∀ b, view (put b part) = x)
    (hother : ∀ p ∈ parts, p.1 ≠ key → ∀ b, view (put b p.2) = view b) :
    view ((parts.map (·.2)).foldl put initial) = x := by
  induction parts generalizing initial with
  | nil => cases hpart
  | cons p parts ih =>
    obtain ⟨hp, hn⟩ := List.nodup_cons.1 hn
    obtain ⟨-, hrest⟩ := List.forall_mem_cons.1 hother
    rw [List.map_cons, List.foldl_cons]
    rcases List.mem_cons.1 hpart with rfl | hpart
    · -- what is put in later has other keys
      have hne (q : String × μ) (hq : q ∈ parts) : q.1 ≠ key := fun heq =>
        hp (List.mem_map.2 ⟨q, hq, heq⟩)
      rw [view_foldl_of_keeps fun q hq => hrest q hq (hne q hq), hself]
    · exact ih hn hpart hrest

theorem Decoded.view_eq {parts : List (String × μ)} (view : α → β)
    (h : layout.Decoded initial put members parts a) {key : String} {part : μ}
    (hpart : (key, part) ∈ parts) {x : β} (hself : ∀ b, view (put b part) = x)
    (hother : ∀ p ∈ parts, p.1 ≠ key → ∀ b, view (put b p.2) = view b) : view a = x := by
  rw [← h.made]
  exact view_foldl h.nodup hpart hself hother

/-- What a record shows under a key that it was stored with is shown by the part that was read
there, if every part shows under its own key alone. -/
theorem Decoded.view_of_member {parts : List (String × μ)} (view : α → String → β) {shown : μ → β}
    (h : layout.Decoded initial put members parts a)
    (hput : ∀ m p, layout.Reads .value m p → ∀ b key,
      view (put b p.2) key = if key = p.1 then shown p.2 else view b key)
    {key : String} {w : JsonValue} (hw : members.get? key = some w)
    (hplace : (layout.slot? key).isSome ∨ layout.others.isSome) :
    ∃ part, layout.Reads .value (.ok key, w.json.document) (key, part) ∧
      view a key = shown part := by
  obtain ⟨part, hpart⟩ := h.placed key w hw hplace
  obtain ⟨w', hw', hread⟩ := h.read _ hpart
  obtain rfl : w' = w := Option.some.inj (hw'.symm.trans hw)
  refine ⟨part, hread, h.view_eq (view · key) hpart (fun b => ?_) fun q hq hne b => ?_⟩
  · exact (hput _ _ hread b key).trans (if_pos rfl)
  · obtain ⟨_, -, hread'⟩ := h.read q hq
    exact (hput _ _ hread' b key).trans (if_neg hne.symm)

end Layout

/-! ### Decoded maps -/

namespace Decoder

variable {κ α : Type} {key : String → Except DecodeError κ} {decode : Decoder α} {origin : Origin}

theorem readsEntry_of_entries {members : List (Except SyntaxError String × Document)}
    {es : List (κ × α)} (h : entries key decode origin members = .ok es) :
    List.Forall₂ (ReadsEntry key decode origin) members es := by
  induction members generalizing es with
  | nil =>
    cases h
    exact .nil
  | cons m members ih =>
    obtain ⟨k, d⟩ := m
    obtain ⟨s, hs, h⟩ := bind_eq_ok_iff.1 h
    obtain ⟨k', hk, h⟩ := bind_eq_ok_iff.1 h
    obtain ⟨a, ha, h⟩ := bind_eq_ok_iff.1 h
    obtain ⟨rest, hrest, h⟩ := bind_eq_ok_iff.1 h
    cases h
    refine .cons ⟨⟨s, ?_, hk⟩, ha⟩ (ih hrest)
    cases k with
    | ok t => exact congrArg Except.ok (Except.ok.inj hs)
    | error e => cases hs

/-- **A map that is decoded is written as the value that it came from**, if its keys and its values
are. -/
theorem value_of_map [Ord κ] [Std.TransOrd κ] [Std.LawfulEqOrd κ] (name : κ → String)
    (json : α → Json) (hname : ∀ s k, key s = .ok k → name k = s)
    (hjson : ∀ v a, Decoder.ofValue decode v = .ok a → (json a).value = v) {v : JsonValue}
    {m : KeyMap κ α} (h : Decoder.ofValue (Decoder.map key decode) v = .ok m) :
    (Json.record (m.entries.map fun e => (name e.1, json e.2))).value = v := by
  unfold Decoder.ofValue Decoder.map at h
  split at h
  case h_2 => exact absurd h (Document.mismatch_ne_ok _ _ _)
  case h_1 ms ending hdoc =>
    obtain ⟨es, hes, h⟩ := bind_eq_ok_iff.1 h
    obtain ⟨-, -, h⟩ := bind_eq_ok_iff.1 h
    cases h
    obtain ⟨members, rfl⟩ : ∃ members, v = .record members :=
      ⟨_, JsonValue.eq_record_of_document hdoc⟩
    rw [JsonValue.document_record] at hdoc
    cases hdoc
    -- the entries that were read, written again, are the members of the value
    have hwritten : es.map (fun e => (name e.1, (json e.2).value)) = members.entries := by
      have hreads := List.forall₂_map_left_iff.1 (readsEntry_of_entries hes)
      have heq : List.Forall₂ (· = ·) members.entries
          (es.map fun e => (name e.1, (json e.2).value)) := by
        refine List.forall₂_map_right_iff.2 (hreads.imp ?_)
        rintro ⟨k, w⟩ ⟨k', a⟩ ⟨⟨s, hs, hk⟩, ha⟩
        cases hs
        rw [hname _ _ hk, hjson w a ha]
      rw [List.forall₂_eq_eq_eq] at heq
      exact heq.symm
    have hn : (es.map (·.1)).Nodup := by
      have hkeys := members.keys_nodup
      rw [KeyMap.keys, ← hwritten, List.map_map] at hkeys
      exact List.Nodup.of_map name (by rwa [List.map_map])
    have hp := (KeyMap.entries_ofList_perm hn).map fun e => (name e.1, (json e.2).value)
    rw [hwritten] at hp
    rw [Json.value, Json.memberValues_eq_map, List.map_map]
    exact congrArg JsonValue.record (KeyMap.ofList_perm hp)

end Decoder

end ToolAuthoring
