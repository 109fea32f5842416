import Mathlib.Data.List.Nodup
import Mathlib.Data.List.Perm.Basic

/-!
# Histories of edits

A state is changed by edits, one after the other.  A view of it shows what it holds under each key:
an edit that fits puts its value under its own key, and an edit that does not fit is not seen.

* `History.latest?`: the value of the latest edit of a key, of those that fit.
* `History.view_foldl`: **under each key a history leaves its latest value**, or what was there.
* `History.foldl_perm`: edits of different keys can be made in any order.
-/

namespace ToolAuthoring.History

variable {σ ε κ α : Type} {amend : σ → ε → σ} {fits : ε → Bool} {key : ε → κ} {value : ε → α}

/-- The value of the latest edit of a key, of those that fit. -/
def latest? [DecidableEq κ] (fits : ε → Bool) (key : ε → κ) (value : ε → α) (es : List ε) (k : κ) :
    Option α :=
  (es.reverse.find? fun e => fits e ∧ k = key e).map value

theorem latest?_cons [DecidableEq κ] (e : ε) (es : List ε) (k : κ) :
    latest? fits key value (e :: es) k =
      (latest? fits key value es k).or (if fits e ∧ k = key e then some (value e) else none) := by
  rw [latest?, latest?, List.reverse_cons, List.find?_append]
  cases es.reverse.find? fun e => fits e ∧ k = key e with
  | some e' => rfl
  | none => by_cases he : fits e ∧ k = key e <;> simp [he]

/-- What was put last has been put by an edit that fits. -/
theorem exists_of_latest? [DecidableEq κ] {es : List ε} {k : κ} {v : α}
    (h : latest? fits key value es k = some v) : ∃ e ∈ es, fits e ∧ key e = k ∧ value e = v := by
  obtain ⟨e, he, rfl⟩ := Option.map_eq_some_iff.1 h
  obtain ⟨hfits, hkey⟩ : fits e ∧ k = key e := by simpa using List.find?_some he
  exact ⟨e, List.mem_reverse.1 (List.mem_of_find?_eq_some he), hfits, hkey.symm, rfl⟩

/-- **Under each key a history leaves its latest value**, or else what was there. -/
theorem view_foldl [DecidableEq κ] (view : σ → κ → Option α)
    (h : ∀ s e k, view (amend s e) k = if fits e ∧ k = key e then some (value e) else view s k)
    (s : σ) (es : List ε) (k : κ) :
    view (es.foldl amend s) k = (latest? fits key value es k).or (view s k) := by
  induction es generalizing s with
  | nil => rfl
  | cons e es ih =>
    rw [List.foldl_cons, ih, h, latest?_cons, Option.or_assoc]
    split <;> rfl

theorem foldl_perm
    (h : ∀ s e e', key e ≠ key e' → amend (amend s e) e' = amend (amend s e') e) (s : σ)
    {es es' : List ε} (hp : es'.Perm es) (hn : (es.map key).Nodup) :
    es'.foldl amend s = es.foldl amend s := by
  refine (List.Perm.foldl_eq' hp.symm (fun e he e' he' s => ?_) s).symm
  by_cases hk : key e = key e'
  · -- edits of one key are one edit
    rw [List.inj_on_of_nodup_map hn he he' hk]
  · exact h s e e' hk

/-- Edits that do not fit can be left out, if they change nothing. -/
theorem foldl_filter (h : ∀ s e, fits e = false → amend s e = s) (s : σ) (es : List ε) :
    (es.filter fits).foldl amend s = es.foldl amend s := by
  induction es generalizing s with
  | nil => rfl
  | cons e es ih =>
    cases he : fits e with
    | true =>
      rw [List.filter_cons_of_pos he]
      exact ih (amend s e)
    | false =>
      rw [List.filter_cons_of_neg (by simp [he]), ih, List.foldl_cons, h s e he]

end ToolAuthoring.History
