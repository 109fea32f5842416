import Mathlib.Data.List.Nodup
import Mathlib.Data.List.Pairwise
import ToolAuthoring.Json.Decode
import ToolAuthoring.Proofs.Json.Values
import ToolAuthoring.Proofs.KeyMap.Permutation

/-!
# Reading records

The members of a record are written in the order of its layout, and the value of what was written
holds them in the order of their keys.  A layout reads both: each member is read on its own, and
where no key occurs twice the parts can be put into the record in any order.

* `Json.document_value_record`: the value of a record has the members of the record.
* `Layout.Reads`: a member and its part; `Layout.decode_of_reads`: **a record is read from its
  members in any order**.
* `Decoder.map_of_reads`, `Decoder.ofValue_map`: **a map is read back if its keys and its values are**.
* `Layout.Yields`: how a part comes about; `Layout.decode_invariant`: what all records have in
  common that a layout decodes.
* `RoundTrip`: decoding undoes writing.
-/

namespace ToolAuthoring

/-! ### Results -/

section Results

variable {ε α β : Type} {x : Except ε α}

theorem bind_eq_ok_iff {f : α → Except ε β} {b : β} :
    x >>= f = .ok b ↔ ∃ a, x = .ok a ∧ f a = .ok b := by
  cases x <;> simp [bind, Except.bind]

theorem map_eq_ok_iff {f : α → β} {b : β} : f <$> x = .ok b ↔ ∃ a, x = .ok a ∧ f a = b := by
  cases x <;> simp [Functor.map, Except.map]

theorem toOption_eq_some_iff {a : α} : x.toOption = some a ↔ x = .ok a := by
  cases x <;> simp [Except.toOption]

theorem isOk_iff : x.isOk = true ↔ ∃ a, x = .ok a := by
  cases x <;> simp [Except.isOk, Except.toBool]

end Results

/-! ### The members of a record -/

namespace Json

/-- The members of a record, in written order. -/
def members : Json → List (String × Json)
  | .record ms => ms
  | _ => []

/-- The member under a key. -/
def member? (j : Json) (key : String) : Option Json :=
  lookupEntry key j.members

/-- The value of a record has the members of the record, in another order. -/
theorem members_value_perm {members : List (String × Json)} (hn : (members.map (·.1)).Nodup) :
    (record members).value.json.members.Perm (members.map fun m => (m.1, m.2.value.json)) := by
  have hkeys : ((memberValues members).map (·.1)).Nodup := by
    simpa [memberValues_eq_map, Function.comp_def] using hn
  simpa [memberValues_eq_map, Json.members, value, JsonValue.record, KeyMap.mapValues,
    Function.comp_def] using (KeyMap.entries_ofList_perm hkeys).map fun m => (m.1, m.2.json)

theorem document_value_record {members : List (String × Json)}
    (hn : (members.map (·.1)).Nodup) :
    ∃ ms, (record members).value.json.document = .record ms none ∧
      ms.Perm (members.map fun m => (.ok m.1, m.2.value.json.document)) := by
  have hp := (members_value_perm hn).map fun m =>
    ((.ok m.1 : Except SyntaxError String), m.2.document)
  rw [List.map_map] at hp
  refine ⟨_, rfl, ?_⟩
  rw [memberDocuments_eq_map]
  exact hp

theorem member?_value {members : List (String × Json)} (hn : (members.map (·.1)).Nodup)
    (key : String) : (record members).value.json.member? key =
      (lookupEntry key members).map fun j => j.value.json := by
  have hp := members_value_perm hn
  have hn' : ((record members).value.json.members.map (·.1)).Nodup :=
    (hp.map _).nodup_iff.2 (by simpa [Function.comp_def] using hn)
  rw [member?, lookupEntry_perm hn' hp]
  exact lookupEntry_map (fun j : Json => j.value.json) key members

end Json

theorem Document.mismatch_ne_ok {α : Type} (d : Document) (expected : String) (a : α) :
    d.mismatch expected ≠ .ok a := by
  intro h
  obtain ⟨found, -, hthrow⟩ := bind_eq_ok_iff.1 h
  cases hthrow

theorem Decoder.text_eq_ok_iff {origin : Origin} {d : Document} {s : String} :
    Decoder.text origin d = .ok s ↔ d = .text s := by
  constructor
  · intro h
    unfold Decoder.text at h
    split at h
    · cases h
      rfl
    · exact absurd h (Document.mismatch_ne_ok _ _ _)
  · rintro rfl
    rfl

/-! ### Reading members -/

namespace Layout

variable {μ α : Type} {layout : Layout μ} {origin : Origin}

/-- How a member is read: by the slot of its key or, where other members are kept, as one of
them. -/
inductive Reads (layout : Layout μ) (origin : Origin) :
    Except SyntaxError String × Document → String × μ → Prop
  | slot {key : String} {d : Document} {slot : Slot μ} {part : μ}
      (hs : layout.slot? key = some slot) (hd : slot.decode origin d = .ok part) :
      Reads layout origin (.ok key, d) (key, part)
  | other {key : String} {d : Document} {keep : String → Decoder μ} {part : μ}
      (hs : layout.slot? key = none) (ho : layout.others = some keep)
      (hd : keep key origin d = .ok part) : Reads layout origin (.ok key, d) (key, part)

/-- How a written member is read from the value of its record. -/
abbrev ReadsValue (layout : Layout μ) (m : String × Json) (p : String × μ) : Prop :=
  layout.Reads .value (.ok m.1, m.2.value.json.document) p

theorem forall₂_readsValue_iff {members : List (String × Json)} {parts : List (String × μ)} :
    List.Forall₂ layout.ReadsValue members parts ↔ List.Forall₂ (layout.Reads .value)
      (members.map fun m => (.ok m.1, m.2.value.json.document)) parts := by
  rw [List.forall₂_map_left_iff]

theorem Reads.key {m : Except SyntaxError String × Document} {p : String × μ}
    (h : layout.Reads origin m p) : m.1 = .ok p.1 := by
  cases h <;> rfl

/-- A member that is read into a part of its own, and the members behind it. -/
theorem readMembers_cons {m : Except SyntaxError String × Document} {p : String × μ}
    {members : List (Except SyntaxError String × Document)} {parts : List (String × μ)}
    {seen : List String} (hm : layout.Reads origin m p) (hp : p.1 ∉ seen)
    (hms : ∀ seen', (∀ key ∈ seen', key = p.1 ∨ key ∈ seen) →
      layout.readMembers origin seen' members = .ok parts) :
    layout.readMembers origin seen (m :: members) = .ok (p :: parts) := by
  cases hm with
  | @slot key d slot part hs hd =>
    have hrest := hms (key :: seen) fun _ h => List.mem_cons.1 h
    simp [readMembers, ofSyntax, hs, hp, hd, hrest, bind, Except.bind, pure, Except.pure]
  | @other key d keep part hs ho hd =>
    have hrest := hms seen fun _ h => .inr h
    simp [readMembers, ofSyntax, hs, ho, hd, hrest, bind, Except.bind, pure, Except.pure]

/-- Members that can each be read can be read one after the other, where no key occurs twice. -/
theorem readMembers_of_reads {members : List (Except SyntaxError String × Document)}
    {parts : List (String × μ)} {seen : List String}
    (hr : List.Forall₂ (layout.Reads origin) members parts) (hn : (parts.map (·.1)).Nodup)
    (hs : ∀ p ∈ parts, p.1 ∉ seen) : layout.readMembers origin seen members = .ok parts := by
  induction hr generalizing seen with
  | nil => rfl
  | @cons m p members parts hm _ ih =>
    obtain ⟨hp, hn⟩ := List.nodup_cons.1 hn
    refine readMembers_cons hm (hs p List.mem_cons_self) fun seen' hseen => ih hn ?_
    intro q hq hmem
    rcases hseen q.1 hmem with heq | hmem
    · exact hp (List.mem_map.2 ⟨q, hq, heq⟩)
    · exact hs q (List.mem_cons_of_mem _ hq) hmem

/-- Members and their parts have the same keys. -/
theorem keys_eq_of_readsValue {members : List (String × Json)} {parts : List (String × μ)}
    (hr : List.Forall₂ layout.ReadsValue members parts) :
    members.map (·.1) = parts.map (·.1) := by
  induction hr with
  | nil => rfl
  | cons h _ ih => rw [List.map_cons, List.map_cons, ih, Except.ok.inj h.key]

theorem missing?_perm {parts parts' : List (String × μ)} (hp : parts.Perm parts') :
    layout.missing? parts = layout.missing? parts' := by
  simp only [missing?, hp.any_eq]

/-- Two parts can be put into a record in either order. -/
def Commute (put : α → μ → α) (p q : String × μ) : Prop :=
  ∀ a, put (put a p.2) q.2 = put (put a q.2) p.2

instance (put : α → μ → α) : Std.Symm (Commute put) :=
  ⟨fun _ _ h a => (h a).symm⟩

/-- Parts of which a record can be put together, in any order. -/
structure Fills (layout : Layout μ) (initial : α) (put : α → μ → α) (parts : List (String × μ))
    (a : α) : Prop where
  nodup : (parts.map (·.1)).Nodup
  complete : layout.missing? parts = none
  commute : parts.Pairwise (Commute put)
  made : (parts.map (·.2)).foldl put initial = a

/-- **A record is read from its members in any order.** -/
theorem decode_of_reads {initial a : α} {put : α → μ → α}
    {members members' : List (Except SyntaxError String × Document)} {parts : List (String × μ)}
    (hr : List.Forall₂ (layout.Reads origin) members parts) 
    (hf : layout.Fills initial put parts a) (hp : members'.Perm members) :
    layout.decode initial put origin (.record members' none) = .ok a := by
  -- the parts in the order in which their members are read
  obtain ⟨parts', hr', hp'⟩ := List.perm_comp_forall₂ hp hr
  have hn : (parts'.map (·.1)).Nodup := (hp'.map _).nodup_iff.2 hf.nodup
  have hread : layout.readMembers origin [] members' = .ok parts' :=
    readMembers_of_reads hr' hn fun _ _ => List.not_mem_nil
  have hm : layout.missing? parts' = none := (missing?_perm hp').trans hf.complete
  have hswap : ∀ p ∈ parts', ∀ q ∈ parts', Commute put p q := fun p hpm q hqm =>
    hf.commute.forall_of_forall (fun _ _ _ => rfl) (hp'.subset hpm) (hp'.subset hqm)
  have hfold : (parts'.map (·.2)).foldl put initial = a := by
    rw [← hf.made, List.foldl_map, List.foldl_map]
    exact hp'.foldl_eq' (f := fun (a : α) (p : String × μ) => put a p.2) hswap initial
  simp only [decode, read, hread, bind, Except.bind, ofSyntax, Document.readEnding, hm, pure,
    Except.pure, hfold]

/-- The value of a record is read like the record itself. -/
theorem ofValue_of_reads {initial a : α} {put : α → μ → α} {members : List (String × Json)}
    {parts : List (String × μ)} (hr : List.Forall₂ layout.ReadsValue members parts)
    (hf : layout.Fills initial put parts a) :
    Decoder.ofValue (layout.decode initial put) (Json.record members).value = .ok a := by
  have hkeys : members.map (·.1) = parts.map (·.1) := keys_eq_of_readsValue hr
  rw [forall₂_readsValue_iff] at hr
  obtain ⟨ms, hdoc, hp⟩ := Json.document_value_record (hkeys ▸ hf.nodup)
  rw [Decoder.ofValue, hdoc]
  exact decode_of_reads hr hf hp

/-- The value of a record whose members are canonical has the documents of these members. -/
theorem ofValue_of_canonical {initial a : α} {put : α → μ → α} {members : List (String × Json)}
    {parts : List (String × μ)} (hc : ∀ m ∈ members, m.2.Canonical)
    (hr : List.Forall₂ (layout.Reads .value) (Json.memberDocuments members) parts)
    (hf : layout.Fills initial put parts a) :
    Decoder.ofValue (layout.decode initial put) (Json.record members).value = .ok a := by
  refine ofValue_of_reads (forall₂_readsValue_iff.2 ?_) hf
  rw [Json.memberDocuments_eq_map] at hr
  rwa [List.map_congr_left fun m hm => by rw [(hc m hm).json_value]]

end Layout

/-! ### Reading maps -/

namespace Decoder

variable {κ α : Type} {key : String → Except DecodeError κ} {decode : Decoder α} {origin : Origin}

/-- How a member of a map is read. -/
def ReadsEntry (key : String → Except DecodeError κ) (decode : Decoder α) (origin : Origin)
    (m : Except SyntaxError String × Document) (e : κ × α) : Prop :=
  (∃ s, m.1 = .ok s ∧ key s = .ok e.1) ∧ decode origin m.2 = .ok e.2

theorem entries_of_reads {members : List (Except SyntaxError String × Document)}
    {es : List (κ × α)} (h : List.Forall₂ (ReadsEntry key decode origin) members es) :
    entries key decode origin members = .ok es := by
  induction h with
  | nil => rfl
  | @cons m e members es hm _ ih =>
    obtain ⟨k, d⟩ := m
    obtain ⟨⟨s, rfl, hs⟩, hd⟩ := hm
    simp only [entries, ofSyntax, hs, hd, ih, bind, Except.bind, pure, Except.pure]

/-- A map is read from its members in any order. -/
theorem map_of_reads [Ord κ] [Std.TransOrd κ] [Std.LawfulEqOrd κ]
    {members : List (Except SyntaxError String × Document)} {es : List (κ × α)} {m : KeyMap κ α}
    (h : List.Forall₂ (ReadsEntry key decode origin) members es) (hp : es.Perm m.entries) :
    Decoder.map key decode origin (.record members none) = .ok m := by
  simp only [Decoder.map, entries_of_reads h, KeyMap.ofList_perm hp, bind, Except.bind, ofSyntax,
    Document.readEnding, pure, Except.pure]

/-- A map is read back if its keys and its values are. -/
theorem ofValue_map [Ord κ] [Std.TransOrd κ] [Std.LawfulEqOrd κ] {name : κ → String}
    {json : α → Json} (hkey : ∀ k, key (name k) = .ok k)
    (hjson : ∀ a, Decoder.ofValue decode (json a).value = .ok a) (m : KeyMap κ α) :
    Decoder.ofValue (Decoder.map key decode)
      (Json.record (m.entries.map fun e => (name e.1, json e.2))).value = .ok m := by
  have hname : Function.Injective name := fun k k' h =>
    Except.ok.inj ((hkey k).symm.trans (h ▸ hkey k'))
  have hn : ((m.entries.map fun e => (name e.1, json e.2)).map (·.1)).Nodup := by
    have hkeys := m.keys_nodup.map hname
    rw [KeyMap.keys, List.map_map] at hkeys
    rwa [List.map_map]
  obtain ⟨ms, hdoc, hp⟩ := Json.document_value_record hn
  rw [List.map_map] at hp
  have hreads (e : κ × α) : ReadsEntry key decode .value
      (.ok (name e.1), (json e.2).value.json.document) e :=
    ⟨⟨_, rfl, hkey e.1⟩, hjson e.2⟩
  obtain ⟨es, hes, hp'⟩ := List.perm_comp_forall₂ hp
    (List.forall₂_map_left_iff.2 (List.forall₂_same.2 fun e _ => hreads e))
  rw [Decoder.ofValue, hdoc]
  exact map_of_reads hes hp'

end Decoder

/-! ### What a layout can decode -/

namespace Layout

variable {μ α : Type} {layout : Layout μ} {origin : Origin}

/-- How a part comes about: it is the part of a slot or that of another member which is kept. -/
inductive Yields (layout : Layout μ) (origin : Origin) : μ → Prop
  | slot {slot : Slot μ} {d : Document} {part : μ} (hs : slot ∈ layout.slots)
      (hd : slot.decode origin d = .ok part) : Yields layout origin part
  | other {key : String} {keep : String → Decoder μ} {d : Document} {part : μ}
      (hs : layout.slot? key = none) (ho : layout.others = some keep)
      (hd : keep key origin d = .ok part) : Yields layout origin part

theorem yields_of_readMembers {members : List (Except SyntaxError String × Document)}
    {parts : List (String × μ)} {seen : List String}
    (h : layout.readMembers origin seen members = .ok parts) :
    ∀ p ∈ parts, layout.Yields origin p.2 := by
  induction members generalizing seen parts with
  | nil =>
    cases h
    simp
  | cons m members ih =>
    obtain ⟨k, d⟩ := m
    rw [readMembers, bind_eq_ok_iff] at h
    obtain ⟨key, -, h⟩ := h
    split at h
    · rename_i slot hs
      split at h
      · cases h
      · obtain ⟨part, hd, h⟩ := bind_eq_ok_iff.1 h
        obtain ⟨rest, hrest, h⟩ := bind_eq_ok_iff.1 h
        cases h
        have hmem : slot ∈ layout.slots := List.mem_of_find?_eq_some hs
        exact List.forall_mem_cons.2 ⟨.slot hmem hd, ih hrest⟩
    · rename_i hs
      split at h
      · rename_i keep ho
        obtain ⟨part, hd, h⟩ := bind_eq_ok_iff.1 h
        obtain ⟨rest, hrest, h⟩ := bind_eq_ok_iff.1 h
        cases h
        exact List.forall_mem_cons.2 ⟨.other hs ho hd, ih hrest⟩
      · obtain ⟨-, -, h⟩ := bind_eq_ok_iff.1 h
        exact ih h

theorem yields_of_readItems {length : Nat} {ending : Option Fault} {slots : List (Slot μ)}
    {items : List Document} {parts : List μ} (hs : slots ⊆ layout.slots)
    (h : layout.readItems origin length ending slots items = .ok parts) :
    ∀ part ∈ parts, layout.Yields origin part := by
  induction slots generalizing items parts with
  | nil =>
    rw [readItems, bind_eq_ok_iff] at h
    obtain ⟨-, -, h⟩ := h
    cases h
    simp
  | cons slot slots ih =>
    obtain ⟨hslot, hslots⟩ := List.cons_subset.1 hs
    cases items with
    | nil =>
      rw [readItems, bind_eq_ok_iff] at h
      obtain ⟨-, -, h⟩ := h
      split at h
      · cases h
      · exact ih hslots h
    | cons d items =>
      rw [readItems] at h
      obtain ⟨part, hd, h⟩ := bind_eq_ok_iff.1 h
      obtain ⟨rest, hrest, h⟩ := bind_eq_ok_iff.1 h
      cases h
      exact List.forall_mem_cons.2 ⟨.slot hslot hd, ih hslots hrest⟩

theorem yields_of_read {d : Document} {parts : List μ} (h : layout.read origin d = .ok parts) :
    ∀ part ∈ parts, layout.Yields origin part := by
  unfold read at h
  split at h
  · obtain ⟨found, hfound, h⟩ := bind_eq_ok_iff.1 h
    obtain ⟨-, -, h⟩ := bind_eq_ok_iff.1 h
    split at h
    · cases h
    · cases h
      exact List.forall_mem_map.2 (yields_of_readMembers hfound)
  · split at h
    · cases h
    · exact yields_of_readItems (List.Subset.refl _) h
  · exact absurd h (Document.mismatch_ne_ok _ _ _)

/-- What holds of the initial record and is kept by every part that can come about holds of every
record that is decoded. -/
theorem decode_invariant {initial : α} {put : α → μ → α} {P : α → Prop} (h₀ : P initial)
    (hput : ∀ a part, P a → layout.Yields origin part → P (put a part)) {d : Document} {a : α}
    (h : layout.decode initial put origin d = .ok a) : P a := by
  obtain ⟨parts, hparts, hfold⟩ := bind_eq_ok_iff.1 h
  cases hfold
  have hall := yields_of_read hparts
  clear h hparts
  induction parts generalizing initial with
  | nil => exact h₀
  | cons part parts ih =>
    obtain ⟨hpart, hrest⟩ := List.forall_mem_cons.1 hall
    exact ih (hput initial part h₀ hpart) hrest

end Layout

/-! ### There and back -/

/-- Decoding undoes writing, at the level of values: every record that satisfies `P` is decoded from
its value, and whatever is decoded from any value is decoded from its own value again, which is
then written as it was. -/
structure RoundTrip {α : Type} (json : α → Json) (decode : Decoder α) (P : α → Prop) : Prop where
  decode_json : ∀ a, P a → decode.ofValue (json a).value = .ok a
  decode_again : ∀ v a, decode.ofValue v = .ok a → decode.ofValue (json a).value = .ok a
  json_again : ∀ v a, decode.ofValue v = .ok a →
    (decode.ofValue (json a).value).map (fun b => (json b).value) = .ok (json a).value

/-- Decoding undoes writing if it does for all records that can be decoded. -/
theorem RoundTrip.of_decoded {α : Type} {json : α → Json} {decode : Decoder α} {P : α → Prop}
    (hjson : ∀ a, P a → decode.ofValue (json a).value = .ok a)
    (hdecode : ∀ v a, decode.ofValue v = .ok a → P a) : RoundTrip json decode P where
  decode_json := hjson
  decode_again v a h := hjson a (hdecode v a h)
  json_again v a h := by rw [hjson a (hdecode v a h), Except.map]

end ToolAuthoring
