import Mathlib.Data.List.Nodup
import Mathlib.Data.List.Perm.Basic
import ToolAuthoring.KeyMap.Lemmas

/-!
# Maps and lists of entries

A map keeps its entries in the order of their keys, whatever order they came in.  So a list of
entries in which no key occurs twice is a map in another order: it has the look-ups of the map, and
the map can be made of it.

* `find?_key_eq_some_iff`: where no key occurs twice, what has a key is found under it.
* `lookupEntry_perm`: look-ups do not depend on the order of the entries.
* `KeyMap.entries_ofList_perm`: the entries of a map that is made of a list are those of the list.
* `KeyMap.ofList_perm`: **a map can be made of its entries in any order**.
-/

namespace ToolAuthoring

/-- Where no key occurs twice, what has a key is found under it. -/
theorem find?_key_eq_some_iff {α : Type} {key : α → String} {as : List α}
    (hn : (as.map key).Nodup) {k : String} {a : α} :
    (as.find? fun b => key b == k) = some a ↔ a ∈ as ∧ key a = k := by
  constructor
  · intro ha
    exact ⟨List.mem_of_find?_eq_some ha, by simpa using List.find?_some ha⟩
  · rintro ⟨ha, rfl⟩
    have hsome : (as.find? fun b => key b == key a).isSome :=
      List.find?_isSome.2 ⟨a, ha, beq_self_eq_true (key a)⟩
    obtain ⟨b, hb⟩ := Option.isSome_iff_exists.1 hsome
    have hkey : key b = key a := by simpa using List.find?_some hb
    rw [hb, List.inj_on_of_nodup_map hn (List.mem_of_find?_eq_some hb) ha hkey]

variable {κ α : Type} [Ord κ]

/-- An insertion under a new key adds an entry. -/
theorem insertEntry_perm [Std.LawfulEqOrd κ] {k : κ} {v : α} {es : List (κ × α)}
    (hk : k ∉ es.map (·.1)) : (insertEntry k v es).Perm ((k, v) :: es) := by
  induction es with
  | nil => exact .refl _
  | cons e es ih =>
    have hne : k ≠ e.1 := fun h => hk (by simp [h])
    have htail : k ∉ es.map (·.1) := fun h => hk (by simp [h])
    unfold insertEntry
    split
    · exact .refl _
    · rename_i hc
      exact absurd (Std.LawfulEqOrd.eq_of_compare hc) hne
    · exact ((ih htail).cons e).trans (.swap _ _ _)

/-- Where no key occurs twice, an entry is found wherever it stands. -/
theorem lookupEntry_eq_some_iff [Std.LawfulEqOrd κ] {es : List (κ × α)}
    (hn : (es.map (·.1)).Nodup) {k : κ} {v : α} : lookupEntry k es = some v ↔ (k, v) ∈ es := by
  refine ⟨mem_of_lookupEntry, fun h => ?_⟩
  induction es with
  | nil => cases h
  | cons e es ih =>
    obtain ⟨he, hn⟩ := List.nodup_cons.1 hn
    rw [lookupEntry_cons]
    split
    · rename_i hc
      obtain rfl : k = e.1 := Std.LawfulEqOrd.eq_of_compare hc
      rcases List.mem_cons.1 h with heq | hmem
      · rw [← heq]
      · exact absurd (List.mem_map_of_mem (f := (·.1)) hmem) he
    · rename_i hc
      rcases List.mem_cons.1 h with heq | hmem
      · exact absurd (heq ▸ Std.ReflOrd.compare_self) hc
      · exact ih hn hmem

theorem lookupEntry_perm [Std.LawfulEqOrd κ] {es fs : List (κ × α)}
    (hn : (es.map (·.1)).Nodup) (hp : es.Perm fs) (k : κ) :
    lookupEntry k es = lookupEntry k fs := by
  have hn' : (fs.map (·.1)).Nodup := (hp.map _).nodup_iff.1 hn
  refine Option.ext fun v => ?_
  rw [lookupEntry_eq_some_iff hn, lookupEntry_eq_some_iff hn', hp.mem_iff]

namespace KeyMap

variable [Std.TransOrd κ] [Std.LawfulEqOrd κ]

theorem entries_foldl_insert_perm (ps : List (κ × α)) (m : KeyMap κ α)
    (hn : (ps.map (·.1) ++ m.keys).Nodup) :
    (ps.foldl (fun m p => m.insert p.1 p.2) m).entries.Perm (ps ++ m.entries) := by
  induction ps generalizing m with
  | nil => exact .refl _
  | cons p ps ih =>
    have hp : p.1 ∉ m.keys := fun h =>
      (List.nodup_cons.1 hn).1 (List.mem_append_right _ h)
    have hinsert : (m.insert p.1 p.2).entries.Perm (p :: m.entries) := insertEntry_perm hp
    have hkeys : (m.insert p.1 p.2).keys.Perm (p.1 :: m.keys) := hinsert.map _
    have hn' : (ps.map (·.1) ++ (m.insert p.1 p.2).keys).Nodup :=
      ((hkeys.append_left _).trans List.perm_middle).nodup_iff.2 hn
    exact ((ih (m.insert p.1 p.2) hn').trans (hinsert.append_left _)).trans List.perm_middle

omit [Std.TransOrd κ] in
theorem keys_nodup (m : KeyMap κ α) : m.keys.Nodup := by
  refine List.pairwise_map.2 (m.ascending.imp fun {a b} hlt heq => ?_)
  rw [heq, Std.ReflOrd.compare_self] at hlt
  cases hlt

/-- Where no key occurs twice, a map keeps all pairs. -/
theorem entries_ofList_perm {ps : List (κ × α)} (hn : (ps.map (·.1)).Nodup) :
    (ofList ps).entries.Perm ps := by
  have hempty : (empty : KeyMap κ α).entries = [] := rfl
  have h := entries_foldl_insert_perm ps .empty (by simpa [keys, hempty] using hn)
  rwa [hempty, List.append_nil] at h

/-- Where no key occurs twice, a map answers as the list that it is made of. -/
theorem get?_ofList_of_nodup {ps : List (κ × α)} (hn : (ps.map (·.1)).Nodup) (k : κ) :
    (ofList ps).get? k = lookupEntry k ps :=
  lookupEntry_perm (keys_nodup _) (entries_ofList_perm hn) k

/-- A map can be made of its entries in any order. -/
theorem ofList_perm {es : List (κ × α)} {m : KeyMap κ α} (hp : es.Perm m.entries) :
    ofList es = m := by
  have hn : (es.map (·.1)).Nodup := (hp.map _).nodup_iff.2 m.keys_nodup
  have hsame : (ofList es).entries.Perm m.entries := (entries_ofList_perm hn).trans hp
  exact ext_get? (lookupEntry_perm (keys_nodup _) hsame)

end KeyMap

end ToolAuthoring
