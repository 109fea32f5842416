/-!
# Maps sorted by key

A `KeyMap κ α` holds at most one value for each key and keeps its entries in increasing order of
keys. The operations work on plain lists of entries, and each keeps the order, so the list is
the map's only representation: two maps with the same look-ups are equal.
-/

namespace ToolAuthoring

universe u v w

variable {κ : Type u} {α : Type v} [Ord κ]

/-- The keys increase strictly from one entry to the next. -/
def Ascending (es : List (κ × α)) : Prop :=
  es.Pairwise fun a b => compare a.1 b.1 = .lt

/-- Put `v` under `k`, before the first greater key; an equal key gives way. -/
def insertEntry (k : κ) (v : α) : List (κ × α) → List (κ × α)
  | [] => [(k, v)]
  | e :: es =>
    match compare k e.1 with
    | .lt => (k, v) :: e :: es
    | .eq => (k, v) :: es
    | .gt => e :: insertEntry k v es

/-- The value of the first entry whose key compares equal to `k`. -/
def lookupEntry (k : κ) : List (κ × α) → Option α
  | [] => none
  | e :: es =>
    match compare k e.1 with
    | .eq => some e.2
    | _ => lookupEntry k es

/-- The keys of an insertion are the new key and old ones. -/
theorem mem_insertEntry {k : κ} {v : α} {es : List (κ × α)} {e : κ × α}
    (h : e ∈ insertEntry k v es) : e = (k, v) ∨ e ∈ es := by
  induction es with
  | nil => simpa [insertEntry] using h
  | cons a es ih =>
    unfold insertEntry at h
    split at h
    · simpa using h
    · rcases List.mem_cons.1 h with h | h
      · exact .inl h
      · exact .inr (List.mem_cons_of_mem _ h)
    · rcases List.mem_cons.1 h with h | h
      · exact .inr (h ▸ List.mem_cons_self)
      · rcases ih h with h | h
        · exact .inl h
        · exact .inr (List.mem_cons_of_mem _ h)

theorem Ascending.insertEntry [Std.TransOrd κ] [Std.LawfulEqOrd κ] {es : List (κ × α)}
    (h : Ascending es) (k : κ) (v : α) : Ascending (insertEntry k v es) := by
  induction es with
  | nil => simp [Ascending, ToolAuthoring.insertEntry]
  | cons a es ih =>
    have hes : Ascending es := (List.pairwise_cons.1 h).2
    have ha := (List.pairwise_cons.1 h).1
    unfold ToolAuthoring.insertEntry
    split
    · rename_i hk
      refine List.pairwise_cons.2 ⟨fun b hb => ?_, h⟩
      rcases List.mem_cons.1 hb with rfl | hb
      · exact hk
      · exact Std.TransCmp.lt_trans hk (ha b hb)
    · rename_i hk
      have hk : k = a.1 := Std.LawfulEqOrd.eq_of_compare hk
      refine List.pairwise_cons.2 ⟨fun b hb => ?_, hes⟩
      simpa [hk] using ha b hb
    · rename_i hk
      refine List.pairwise_cons.2 ⟨fun b hb => ?_, ih hes⟩
      rcases mem_insertEntry hb with rfl | hb
      · exact Std.OrientedCmp.lt_of_gt hk
      · exact ha b hb

theorem Ascending.map {β : Type w} {es : List (κ × α)} (h : Ascending es) (f : α → β) :
    Ascending (es.map fun e => (e.1, f e.2)) := by
  unfold Ascending at *
  rw [List.pairwise_map]
  exact h

/-- A finite map from `κ` to `α` with its entries in increasing order of keys. -/
structure KeyMap (κ : Type u) (α : Type v) [Ord κ] where
  entries : List (κ × α)
  ascending : Ascending entries

namespace KeyMap

theorem ext {a b : KeyMap κ α} (h : a.entries = b.entries) : a = b := by
  cases a
  cases b
  cases h
  rfl

instance [DecidableEq κ] [DecidableEq α] : DecidableEq (KeyMap κ α) := fun a b =>
  decidable_of_iff (a.entries = b.entries) ⟨ext, fun h => h ▸ rfl⟩

/-- The map without entries. -/
def empty : KeyMap κ α := ⟨[], List.Pairwise.nil⟩

instance : EmptyCollection (KeyMap κ α) := ⟨empty⟩

instance : Inhabited (KeyMap κ α) := ⟨empty⟩

/-- The value stored under `k`. -/
def get? (m : KeyMap κ α) (k : κ) : Option α :=
  lookupEntry k m.entries

/-- Whether a value is stored under `k`. -/
def contains (m : KeyMap κ α) (k : κ) : Bool :=
  (m.get? k).isSome

/-- The number of keys. -/
def size (m : KeyMap κ α) : Nat :=
  m.entries.length

/-- Whether no key has a value. -/
def isEmpty (m : KeyMap κ α) : Bool :=
  m.entries.isEmpty

/-- The keys, in increasing order. -/
def keys (m : KeyMap κ α) : List κ :=
  m.entries.map (·.1)

/-- The same keys, each with its value changed by `f`. -/
def mapValues {β : Type w} (f : α → β) (m : KeyMap κ α) : KeyMap κ β where
  entries := m.entries.map fun e => (e.1, f e.2)
  ascending := m.ascending.map f

variable [Std.TransOrd κ] [Std.LawfulEqOrd κ]

/-- Store `v` under `k`, in place of any value that was there. -/
def insert (m : KeyMap κ α) (k : κ) (v : α) : KeyMap κ α :=
  ⟨insertEntry k v m.entries, m.ascending.insertEntry k v⟩

/-- Store the pairs from first to last; the last value of a key stays. -/
def ofList (ps : List (κ × α)) : KeyMap κ α :=
  ps.foldl (fun m p => m.insert p.1 p.2) empty

end KeyMap

end ToolAuthoring
