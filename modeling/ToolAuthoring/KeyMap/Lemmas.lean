import ToolAuthoring.KeyMap

/-!
# Laws of key maps

A map is known by its look-ups.

* `get?_insert`: an insertion answers for its own key and leaves the others alone.
* `ext_get?`: maps with the same look-ups are equal.
* `get?_ofList`: of the pairs with one key the last counts.
-/

namespace ToolAuthoring

universe u v w x

variable {κ : Type u} {α : Type v} [Ord κ]

@[simp]
theorem lookupEntry_nil (k : κ) : lookupEntry k ([] : List (κ × α)) = none := rfl

theorem lookupEntry_cons (k : κ) (e : κ × α) (es : List (κ × α)) :
    lookupEntry k (e :: es) = if compare k e.1 = .eq then some e.2 else lookupEntry k es := by
  rw [lookupEntry]
  cases compare k e.1 <;> rfl

theorem lookupEntry_eq_none {k : κ} {es : List (κ × α)} (h : ∀ e ∈ es, compare k e.1 = .lt) :
    lookupEntry k es = none := by
  induction es with
  | nil => rfl
  | cons e es ih =>
    rw [lookupEntry, h e List.mem_cons_self]
    exact ih fun e he => h e (List.mem_cons_of_mem _ he)

theorem lookupEntry_append (k : κ) (es fs : List (κ × α)) :
    lookupEntry k (es ++ fs) = (lookupEntry k es).or (lookupEntry k fs) := by
  induction es with
  | nil => rfl
  | cons e es ih =>
    rw [List.cons_append, lookupEntry_cons, lookupEntry_cons, ih]
    split <;> rfl

section Entries

variable [Std.LawfulEqOrd κ]

theorem lookupEntry_cons_eq [DecidableEq κ] (k : κ) (e : κ × α) (es : List (κ × α)) :
    lookupEntry k (e :: es) = if k = e.1 then some e.2 else lookupEntry k es := by
  rw [lookupEntry_cons]
  by_cases h : k = e.1
  · rw [if_pos h, h, if_pos Std.ReflOrd.compare_self]
  · rw [if_neg h, if_neg fun hc => h (Std.LawfulEqOrd.eq_of_compare hc)]

theorem lookupEntry_insertEntry [DecidableEq κ] (k j : κ) (v : α) (es : List (κ × α)) :
    lookupEntry j (insertEntry k v es) = if j = k then some v else lookupEntry j es := by
  induction es with
  | nil => rw [insertEntry, lookupEntry_cons_eq]
  | cons e es ih =>
    unfold insertEntry
    split
    · rw [lookupEntry_cons_eq]
    · rename_i he
      obtain rfl : k = e.1 := Std.LawfulEqOrd.eq_of_compare he
      rw [lookupEntry_cons_eq, lookupEntry_cons_eq]
      split <;> rfl
    · rename_i he
      rw [lookupEntry_cons_eq, lookupEntry_cons_eq, ih]
      by_cases hj : j = e.1
      · have hne : e.1 ≠ k := fun h => by
          rw [h, Std.ReflOrd.compare_self] at he
          cases he
        rw [if_pos hj, hj, if_neg hne, if_pos rfl]
      · rw [if_neg hj, if_neg hj]

theorem lookupEntry_cons_self (e : κ × α) (es : List (κ × α)) :
    lookupEntry e.1 (e :: es) = some e.2 := by
  rw [lookupEntry_cons, if_pos Std.ReflOrd.compare_self]

theorem mem_of_lookupEntry {k : κ} {v : α} {es : List (κ × α)} (h : lookupEntry k es = some v) :
    (k, v) ∈ es := by
  induction es with
  | nil => cases h
  | cons e es ih =>
    rw [lookupEntry_cons] at h
    split at h
    · rename_i hc
      obtain rfl : k = e.1 := Std.LawfulEqOrd.eq_of_compare hc
      obtain rfl : e.2 = v := Option.some.inj h
      exact List.mem_cons_self
    · exact List.mem_cons_of_mem _ (ih h)

theorem lookupEntry_of_not_mem {k : κ} {es : List (κ × α)} (h : k ∉ es.map (·.1)) :
    lookupEntry k es = none := by
  cases hl : lookupEntry k es with
  | none => rfl
  | some v => exact absurd (List.mem_map_of_mem (mem_of_lookupEntry hl)) h

variable [Std.TransOrd κ]

theorem Ascending.lookupEntry_of_mem {es : List (κ × α)} (h : Ascending es) {e : κ × α}
    (he : e ∈ es) : lookupEntry e.1 es = some e.2 := by
  induction es with
  | nil => cases he
  | cons a es ih =>
    rcases List.mem_cons.1 he with rfl | he
    · exact lookupEntry_cons_self _ _
    · have ha : compare e.1 a.1 = .gt :=
        Std.OrientedCmp.gt_of_lt ((List.pairwise_cons.1 h).1 e he)
      rw [lookupEntry, ha]
      exact ih (List.pairwise_cons.1 h).2 he

theorem Ascending.eq_of_lookupEntry {es fs : List (κ × α)} (he : Ascending es) (hf : Ascending fs)
    (h : ∀ k, lookupEntry k es = lookupEntry k fs) : es = fs := by
  induction es generalizing fs with
  | nil =>
    cases fs with
    | nil => rfl
    | cons f fs =>
      have hf := h f.1
      rw [lookupEntry_cons_self] at hf
      cases hf
  | cons e es ih =>
    cases fs with
    | nil =>
      have he := h e.1
      rw [lookupEntry_cons_self] at he
      cases he
    | cons f fs =>
      have hes := List.pairwise_cons.1 he
      have hfs := List.pairwise_cons.1 hf
      have hef : (e.1, e.2) ∈ f :: fs := mem_of_lookupEntry (by rw [← h, lookupEntry_cons_self])
      have hfe : (f.1, f.2) ∈ e :: es := mem_of_lookupEntry (by rw [h, lookupEntry_cons_self])
      have hh : e = f := by
        rcases List.mem_cons.1 hef with rfl | hef
        · rfl
        · rcases List.mem_cons.1 hfe with rfl | hfe
          · rfl
          · have hlt := hes.1 _ hfe
            rw [Std.OrientedCmp.gt_of_lt (hfs.1 _ hef)] at hlt
            contradiction
      subst hh
      have hk : ∀ k, lookupEntry k es = lookupEntry k fs := fun k => by
        by_cases hc : compare k e.1 = .eq
        · have hk : k = e.1 := Std.LawfulEqOrd.eq_of_compare hc
          rw [hk, lookupEntry_eq_none hes.1, lookupEntry_eq_none hfs.1]
        · have hl := h k
          rwa [lookupEntry_cons, lookupEntry_cons, if_neg hc, if_neg hc] at hl
      rw [ih hes.2 hfs.2 hk]

end Entries

namespace KeyMap

@[simp]
theorem get?_empty (k : κ) : (empty : KeyMap κ α).get? k = none := rfl

theorem eq_empty_of_isEmpty {m : KeyMap κ α} (h : m.isEmpty = true) : m = .empty :=
  ext (List.isEmpty_iff.1 h)

variable [Std.TransOrd κ] [Std.LawfulEqOrd κ]

theorem get?_insert [DecidableEq κ] (m : KeyMap κ α) (k j : κ) (v : α) :
    (m.insert k v).get? j = if j = k then some v else m.get? j :=
  lookupEntry_insertEntry k j v m.entries

@[simp]
theorem get?_insert_self (m : KeyMap κ α) (k : κ) (v : α) : (m.insert k v).get? k = some v := by
  classical
  rw [get?_insert, if_pos rfl]

theorem get?_insert_of_ne (m : KeyMap κ α) {k j : κ} (h : j ≠ k) (v : α) :
    (m.insert k v).get? j = m.get? j := by
  classical
  rw [get?_insert, if_neg h]

@[simp]
theorem isEmpty_insert (m : KeyMap κ α) (k : κ) (v : α) : (m.insert k v).isEmpty = false := by
  cases h : (m.insert k v).isEmpty with
  | false => rfl
  | true =>
    have hk := get?_insert_self m k v
    rw [eq_empty_of_isEmpty h, get?_empty] at hk
    cases hk

/-- Maps with the same look-ups are equal. -/
theorem ext_get? {m n : KeyMap κ α} (h : ∀ k, m.get? k = n.get? k) : m = n :=
  ext (m.ascending.eq_of_lookupEntry n.ascending h)

theorem mem_entries_iff {m : KeyMap κ α} {k : κ} {v : α} :
    (k, v) ∈ m.entries ↔ m.get? k = some v :=
  ⟨fun h => m.ascending.lookupEntry_of_mem h, mem_of_lookupEntry⟩

/-- Insertions under different keys commute. -/
theorem insert_comm (m : KeyMap κ α) {k k' : κ} (h : k ≠ k') (v v' : α) :
    (m.insert k v).insert k' v' = (m.insert k' v').insert k v := by
  classical
  refine ext_get? fun j => ?_
  rw [get?_insert, get?_insert, get?_insert, get?_insert]
  by_cases hj : j = k
  · rw [if_pos hj, if_neg fun hj' => h (hj.symm.trans hj'), if_pos hj]
  · rw [if_neg hj, if_neg hj]

theorem get?_foldl_insert [DecidableEq κ] (ps : List (κ × α)) (m : KeyMap κ α) (k : κ) :
    (ps.foldl (fun m p => m.insert p.1 p.2) m).get? k =
      ((ps.reverse.find? fun p => p.1 = k).map (·.2)).or (m.get? k) := by
  induction ps generalizing m with
  | nil => rfl
  | cons p ps ih =>
    rw [List.foldl_cons, ih, List.reverse_cons, List.find?_append, get?_insert]
    cases ps.reverse.find? fun p => p.1 = k with
    | some q => rfl
    | none =>
      by_cases h : k = p.1
      · simp [h]
      · have h' : p.1 ≠ k := fun e => h e.symm
        simp [h, h']

/-- Of the pairs with one key the last counts. -/
theorem get?_ofList [DecidableEq κ] (ps : List (κ × α)) (k : κ) :
    (ofList ps).get? k = (ps.reverse.find? fun p => p.1 = k).map (·.2) := by
  rw [ofList, get?_foldl_insert, get?_empty, Option.or_none]

/-- A map has the keys of the pairs that it is made of. -/
theorem contains_ofList [DecidableEq κ] (ps : List (κ × α)) (k : κ) :
    (ofList ps).contains k ↔ k ∈ ps.map (·.1) := by
  rw [contains, get?_ofList, Option.isSome_map, List.find?_isSome]
  simp

/-- Where the pairs with one key have one value, the map has it too. -/
theorem get?_ofList_of_forall [DecidableEq κ] {ps : List (κ × α)} {k : κ} {v : α}
    (hk : k ∈ ps.map (·.1)) (h : ∀ p ∈ ps, p.1 = k → p.2 = v) : (ofList ps).get? k = some v := by
  obtain ⟨w, hw⟩ := Option.isSome_iff_exists.1 ((contains_ofList ps k).2 hk)
  have hfound := hw
  rw [get?_ofList] at hfound
  obtain ⟨p, hp, rfl⟩ := Option.map_eq_some_iff.1 hfound
  have hkey : p.1 = k := by simpa using List.find?_some hp
  rw [hw, h p (List.mem_reverse.1 (List.mem_of_find?_eq_some hp)) hkey]

/-- Storing the entries of a map gives the map again. -/
@[simp]
theorem ofList_entries (m : KeyMap κ α) : ofList m.entries = m := by
  classical
  refine ext_get? fun k => ?_
  rw [get?_ofList]
  cases hf : m.entries.reverse.find? fun e => e.1 = k with
  | some e =>
    obtain rfl : e.1 = k := by simpa using List.find?_some hf
    exact (mem_entries_iff.1 (List.mem_reverse.1 (List.mem_of_find?_eq_some hf))).symm
  | none =>
    cases hg : m.get? k with
    | none => rfl
    | some v =>
      have hmem := List.mem_reverse.2 (mem_entries_iff.2 hg)
      exact absurd (decide_eq_true rfl) (List.find?_eq_none.1 hf _ hmem)

theorem mem_keys_insert [DecidableEq κ] {m : KeyMap κ α} {k j : κ} {v : α} :
    j ∈ (m.insert k v).keys ↔ j = k ∨ j ∈ m.keys := by
  have hkeys (m : KeyMap κ α) : j ∈ m.keys ↔ ∃ v, m.get? j = some v := by
    simp [keys, ← mem_entries_iff]
  rw [hkeys, hkeys]
  by_cases h : j = k <;> simp [get?_insert, h]

end KeyMap

section MapValues

variable {β : Type w}

theorem lookupEntry_map (f : α → β) (k : κ) (es : List (κ × α)) :
    lookupEntry k (es.map fun e => (e.1, f e.2)) = (lookupEntry k es).map f := by
  induction es with
  | nil => rfl
  | cons e es ih =>
    rw [List.map_cons, lookupEntry_cons, lookupEntry_cons, ih]
    split <;> rfl

/-- Keys that are written with different names are looked up by their names. -/
theorem lookupEntry_map_name {κ' : Type x} [Ord κ'] [Std.LawfulEqOrd κ] [Std.LawfulEqOrd κ']
    {name : κ → κ'} (hname : ∀ k j, name k = name j → k = j) (f : α → β) (k : κ)
    (es : List (κ × α)) :
    lookupEntry (name k) (es.map fun e => (name e.1, f e.2)) = (lookupEntry k es).map f := by
  classical
  induction es with
  | nil => rfl
  | cons e es ih =>
    rw [List.map_cons, lookupEntry_cons_eq, lookupEntry_cons_eq, ih]
    by_cases h : k = e.1
    · rw [if_pos (congrArg name h), if_pos h, Option.map_some]
    · rw [if_neg fun hn => h (hname _ _ hn), if_neg h]

@[simp]
theorem KeyMap.get?_mapValues (f : α → β) (m : KeyMap κ α) (k : κ) :
    (m.mapValues f).get? k = (m.get? k).map f :=
  lookupEntry_map f k m.entries

end MapValues

end ToolAuthoring
