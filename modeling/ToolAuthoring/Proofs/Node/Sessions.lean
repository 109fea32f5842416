import ToolAuthoring.Form.NodeForm
import ToolAuthoring.KeyMap.Lemmas
import ToolAuthoring.Proofs.Histories

/-!
# Editing sessions of a node

Settings of a node are staged through the forms of its integrations, one update after the other, and
an update that is rejected is passed over.  The update alone decides whether it is rejected, and
only a new operation can be.  So in the end every setting is what was staged for it last, and the
chosen operation has not left the sheet.

* `NodeEdit.fits`: the updates that are accepted, and `FlowNode.apply_isOk`: by every node.
* `FlowNode.ext_staged`: a node is its staged texts, the integrations that it has settings for, and
  all else.
* `FlowNode.stagedValue?_amend`, `FlowNode.stagedValue?_amendAll`: one update, and a session.
* `OperationSheet.Admits`: what may be stored for the chosen operation, and
  `FlowNode.admits_amendAll`: a session keeps to it.
* `FlowNode.session_settled`: **the latest accepted update of each setting determines the node**.
-/

namespace ToolAuthoring

open OperationSheet (selectorKey)

/-- What may be stored for the chosen operation: nothing, the empty text, or an operation of the
sheet. -/
def OperationSheet.Admits (sheet : OperationSheet) (stored : Option String) : Prop :=
  ∀ s, stored = some s → s = "" ∨ (sheet.operation? s).isSome

/-- An update of a node through the form of an integration. -/
structure NodeEdit where
  integration : Integration
  update : FormUpdate
deriving DecidableEq, Repr

namespace NodeEdit

/-- The form that the update goes through. -/
def form (e : NodeEdit) : NodeForm := ⟨e.integration⟩

/-- The setting that is updated. -/
def place (e : NodeEdit) : Integration × String := (e.integration, e.update.key)

/-- Whether the update is accepted: all but the chosen operation takes any text, and that takes the
empty text and the operations of the sheet. -/
def fits (e : NodeEdit) : Bool :=
  e.update.key != selectorKey || e.update.value == "" ||
    (e.integration.operations.operation? e.update.value).isSome

theorem fits_eq_false_iff (e : NodeEdit) : e.fits = false ↔
    e.update.key = selectorKey ∧ e.update.value ≠ "" ∧
      e.integration.operations.operation? e.update.value = none := by
  simp [fits, and_assoc]

theorem admits_of_fits {e : NodeEdit} (h : e.fits) (hkey : e.update.key = selectorKey) :
    e.integration.operations.Admits (some e.update.value) := by
  rintro s ⟨⟩
  simpa [fits, hkey] using h

end NodeEdit

namespace FlowNode

variable {n n' : FlowNode} {e e' : NodeEdit} {es : List NodeEdit}

/-- A node with nothing staged for any integration; all else is as before. -/
def unstaged (n : FlowNode) : FlowNode :=
  { n with payload := { n.payload with staged := .empty } }

/-! ### Nodes by what is staged on them -/

theorem ext_staged (hv : ∀ i key, n.stagedValue? i key = n'.stagedValue? i key)
    (hi : ∀ i, (n.stagedFor i).isSome = (n'.stagedFor i).isSome) (hu : n.unstaged = n'.unstaged) :
    n = n' := by
  have hstaged : n.payload.staged = n'.payload.staged := by
    refine KeyMap.ext_get? fun i => ?_
    have hi' := hi i
    have hv' := hv i
    simp only [stagedValue?, stagedFor] at hi' hv'
    cases hs : n.payload.staged.get? i with
    | none =>
      rw [hs, Option.isSome_none] at hi'
      exact (Option.isSome_eq_false_iff.1 hi'.symm |> Option.isNone_iff_eq_none.1).symm
    | some values =>
      rw [hs, Option.isSome_some] at hi'
      obtain ⟨values', hs'⟩ := Option.isSome_iff_exists.1 hi'.symm
      rw [hs, hs'] at hv'
      rw [hs', KeyMap.ext_get? hv']
  obtain ⟨id, type, ⟨_, _, _, _, staged, _⟩, place⟩ := n
  obtain ⟨id', type', ⟨_, _, _, _, staged', _⟩, place'⟩ := n'
  simp_all [unstaged]

theorem stagedFor_stage (n : FlowNode) (i : Integration) (key x : String) (j : Integration) :
    (n.stage i key x).stagedFor j =
      if j = i then some (((n.stagedFor i).getD .empty).insert key x) else n.stagedFor j :=
  KeyMap.get?_insert _ _ _ _

theorem stagedValue?_stage (n : FlowNode) (i : Integration) (key x : String) (j : Integration)
    (key' : String) : (n.stage i key x).stagedValue? j key' =
      if (j, key') = (i, key) then some x else n.stagedValue? j key' := by
  rw [stagedValue?, stagedFor_stage]
  by_cases hj : j = i
  · subst hj
    rw [if_pos rfl, Option.bind_some, KeyMap.get?_insert]
    by_cases hkey : key' = key
    · simp [hkey]
    · rw [if_neg hkey, if_neg fun h => hkey (congrArg Prod.snd h), stagedValue?]
      cases n.stagedFor j <;> rfl
  · rw [if_neg hj, if_neg fun h => hj (congrArg Prod.fst h), stagedValue?]

theorem stagedValue?_stage_self (n : FlowNode) (i : Integration) (key x : String) :
    (n.stage i key x).stagedValue? i key = some x := by
  rw [stagedValue?_stage, if_pos rfl]

theorem stagedValue?_stage_of_ne (n : FlowNode) (i : Integration) {key key' : String} (x : String)
    (h : key' ≠ key) : (n.stage i key x).stagedValue? i key' = n.stagedValue? i key' := by
  rw [stagedValue?_stage, if_neg fun heq => h (congrArg Prod.snd heq)]

/-! ### One update -/

/-- An update that fits is staged, and another one names an unknown operation. -/
theorem apply_eq (n : FlowNode) (e : NodeEdit) : e.form.apply n e.update =
    if e.fits then .ok (n.stage e.integration e.update.key e.update.value)
    else .error (.unknownOperation e.integration e.update.value) := by
  cases he : e.fits with
  | false => exact if_pos (e.fits_eq_false_iff.1 he)
  | true => exact if_neg fun h => Bool.false_ne_true ((e.fits_eq_false_iff.2 h).symm.trans he)

theorem apply_isOk (n : FlowNode) (e : NodeEdit) : (e.form.apply n e.update).isOk = e.fits := by
  rw [apply_eq]
  cases e.fits <;> rfl

/-- The node behind an update, which is the same node if the update is rejected. -/
def amend (n : FlowNode) (e : NodeEdit) : FlowNode :=
  match e.form.apply n e.update with
  | .ok n' => n'
  | .error _ => n

/-- The node behind a session of updates. -/
def amendAll (n : FlowNode) (es : List NodeEdit) : FlowNode :=
  es.foldl amend n

/-- The value of the latest accepted update of a setting, if there is one. -/
def latestStaged? (es : List NodeEdit) (i : Integration) (key : String) : Option String :=
  (es.reverse.find? fun e => e.fits ∧ (i, key) = e.place).map (·.update.value)

theorem amend_eq (n : FlowNode) (e : NodeEdit) :
    n.amend e = if e.fits then n.stage e.integration e.update.key e.update.value else n := by
  rw [amend, apply_eq]
  cases e.fits <;> rfl

theorem stagedValue?_amend (n : FlowNode) (e : NodeEdit) (p : Integration × String) :
    (n.amend e).stagedValue? p.1 p.2 =
      if e.fits ∧ p = e.place then some e.update.value else n.stagedValue? p.1 p.2 := by
  rw [amend_eq]
  by_cases he : e.fits
  · rw [if_pos he, stagedValue?_stage]
    simp only [he, true_and]
    rfl
  · simp [he]

theorem isSome_stagedFor_amend (n : FlowNode) (e : NodeEdit) (i : Integration) :
    ((n.amend e).stagedFor i).isSome =
      ((n.stagedFor i).isSome || (e.fits && e.integration == i)) := by
  rw [amend_eq]
  by_cases he : e.fits
  · by_cases hi : i = e.integration
    · simp [he, stagedFor_stage, hi]
    · have hne : (e.integration == i) = false := beq_eq_false_iff_ne.2 (Ne.symm hi)
      simp [he, stagedFor_stage, hi, hne]
  · simp [he]

theorem unstaged_amend (n : FlowNode) (e : NodeEdit) : (n.amend e).unstaged = n.unstaged := by
  rw [amend_eq]
  split <;> rfl

theorem amend_comm (n : FlowNode) (he : e.place ≠ e'.place) :
    (n.amend e).amend e' = (n.amend e').amend e := by
  refine ext_staged (fun i key => ?_) (fun i => ?_) (by simp only [unstaged_amend])
  · rw [stagedValue?_amend _ _ (i, key), stagedValue?_amend _ _ (i, key),
      stagedValue?_amend _ _ (i, key), stagedValue?_amend _ _ (i, key)]
    by_cases hp : (i, key) = e.place
    · have hp' : (i, key) ≠ e'.place := fun h => he (hp.symm.trans h)
      simp [hp']
    · simp [hp]
  · simp only [isSome_stagedFor_amend]
    exact Bool.or_right_comm _ _ _

/-! ### Sessions -/

theorem stagedValue?_amendAll (n : FlowNode) (es : List NodeEdit) (i : Integration)
    (key : String) :
    (n.amendAll es).stagedValue? i key = (latestStaged? es i key).or (n.stagedValue? i key) :=
  History.view_foldl (fun n p => n.stagedValue? p.1 p.2) stagedValue?_amend n es (i, key)

theorem isSome_stagedFor_amendAll (n : FlowNode) (es : List NodeEdit) (i : Integration) :
    ((n.amendAll es).stagedFor i).isSome =
      ((n.stagedFor i).isSome || es.any fun e => e.fits && e.integration == i) := by
  induction es generalizing n with
  | nil => simp [amendAll]
  | cons e es ih =>
    rw [amendAll, List.foldl_cons, ← amendAll, ih, isSome_stagedFor_amend, List.any_cons,
      Bool.or_assoc]

theorem unstaged_amendAll (n : FlowNode) (es : List NodeEdit) :
    (n.amendAll es).unstaged = n.unstaged := by
  induction es generalizing n with
  | nil => rfl
  | cons e es ih => rw [amendAll, List.foldl_cons, ← amendAll, ih, unstaged_amend]

theorem admits_amendAll (n : FlowNode) (es : List NodeEdit) (i : Integration)
    (h : i.operations.Admits (n.stagedValue? i selectorKey)) :
    i.operations.Admits ((n.amendAll es).stagedValue? i selectorKey) := by
  rw [stagedValue?_amendAll]
  cases hlatest : latestStaged? es i selectorKey with
  | none => exact h
  | some x =>
    obtain ⟨e, -, hfits, hplace, rfl⟩ := History.exists_of_latest? hlatest
    obtain ⟨rfl, hkey⟩ := Prod.ext_iff.1 hplace
    exact NodeEdit.admits_of_fits hfits hkey

/-- Switching between operations leaves all other settings in place. -/
theorem stagedValue?_of_switches (n : FlowNode) (hes : ∀ e ∈ es, e.update.key = selectorKey)
    (i : Integration) {key : String} (hkey : key ≠ selectorKey) :
    (n.amendAll es).stagedValue? i key = n.stagedValue? i key := by
  rw [stagedValue?_amendAll]
  cases hlatest : latestStaged? es i key with
  | none => rfl
  | some x =>
    obtain ⟨e, he, -, hplace, -⟩ := History.exists_of_latest? hlatest
    exact absurd ((congrArg Prod.snd hplace).symm.trans (hes e he)) hkey

/-- Switching to another operation and back to the stored one leaves the node as it was. -/
theorem amendAll_away_and_back (n : FlowNode) {i : Integration} {back : String} (away : String)
    (hback : n.stagedValue? i selectorKey = some back)
    (hfits : NodeEdit.fits ⟨i, ⟨selectorKey, back⟩⟩) :
    n.amendAll [⟨i, ⟨selectorKey, away⟩⟩, ⟨i, ⟨selectorKey, back⟩⟩] = n := by
  refine ext_staged (fun j key => ?_) (fun j => ?_) (unstaged_amendAll _ _)
  · show ((n.amend _).amend _).stagedValue? (j, key).1 (j, key).2 = _
    rw [stagedValue?_amend, stagedValue?_amend]
    by_cases hp : (j, key) = (i, selectorKey)
    · cases hp
      simp [NodeEdit.place, hfits, hback]
    · simp [NodeEdit.place, hp]
  · have hsome : (n.stagedFor i).isSome := by
      rw [stagedValue?] at hback
      obtain ⟨values, hvalues, -⟩ := Option.bind_eq_some_iff.1 hback
      rw [hvalues]
      rfl
    rw [isSome_stagedFor_amendAll]
    by_cases hj : i = j
    · subst hj
      rw [hsome, Bool.true_or]
    · have hne : (i == j) = false := beq_eq_false_iff_ne.2 hj
      simp [hne]

/-- **The latest accepted update of each setting determines the node.** Whether an update is
accepted does not depend on the node.  Nothing but settings is changed, and no integration comes by
settings without an accepted update.  An operation that the sheet admits is replaced by such ones
only, a switch of the operation leaves the settings behind it in place, and updates of different
settings can be made in any order. -/
theorem session_settled (n : FlowNode) (es : List NodeEdit) :
    (∀ (found : FlowNode) (e : NodeEdit), (e.form.apply found e.update).isOk = e.fits) ∧
      (∀ n', n.amendAll es = n' ↔
        (∀ i key, n'.stagedValue? i key =
          (latestStaged? es i key).or (n.stagedValue? i key)) ∧
          (∀ i, (n'.stagedFor i).isSome =
            ((n.stagedFor i).isSome || es.any fun e => e.fits && e.integration == i)) ∧
          n'.unstaged = n.unstaged) ∧
      (∀ i : Integration, i.operations.Admits (n.stagedValue? i selectorKey) →
        i.operations.Admits ((n.amendAll es).stagedValue? i selectorKey)) ∧
      ((∀ e ∈ es, e.update.key = selectorKey) → ∀ i key, key ≠ selectorKey →
        (n.amendAll es).stagedValue? i key = n.stagedValue? i key) ∧
      (∀ i away back, n.stagedValue? i selectorKey = some back →
        NodeEdit.fits ⟨i, ⟨selectorKey, back⟩⟩ →
          n.amendAll [⟨i, ⟨selectorKey, away⟩⟩, ⟨i, ⟨selectorKey, back⟩⟩] = n) ∧
      ∀ es', es'.Perm es → (es.map NodeEdit.place).Nodup → n.amendAll es' = n.amendAll es := by
  refine ⟨apply_isOk, fun n' => ⟨?_, ?_⟩, n.admits_amendAll es,
    fun hes i key => n.stagedValue?_of_switches hes i,
    fun i away back => n.amendAll_away_and_back away,
    fun es' => History.foldl_perm (fun n _ _ he => n.amend_comm he) n⟩
  · rintro rfl
    exact ⟨n.stagedValue?_amendAll es, n.isSome_stagedFor_amendAll es, n.unstaged_amendAll es⟩
  · rintro ⟨hv, hi, hu⟩
    refine ext_staged (fun i key => ?_) (fun i => ?_) ((n.unstaged_amendAll es).trans hu.symm)
    · rw [hv, stagedValue?_amendAll]
    · rw [hi, isSome_stagedFor_amendAll]

end FlowNode

end ToolAuthoring
