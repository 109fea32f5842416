import ToolAuthoring.KeyMap.Lemmas
import ToolAuthoring.Proofs.Draft.Edits
import ToolAuthoring.Proofs.Histories

/-!
# The latest edit of a field counts

Edits are applied one after the other, and one that is rejected is passed over.  The edit alone
decides whether it is rejected, and an accepted edit changes no field but its own, so in the end
each field holds what was put into it last.

* `DraftEdit.fits`: the edits that are accepted, and `Draft.apply_isOk`: by every draft.
* `Draft.value?`: what a field holds; `Draft.ext_value?`: there is no more to a draft than this and
  its parameters.
* `Draft.value?_amend`: one edit; `Draft.value?_amendAll`: a history of edits.
* `Draft.amendAll_settled`: **the latest accepted edit of each field determines the draft**.
-/

namespace ToolAuthoring

namespace ToolKind

theorem ofName?_name (t : ToolKind) : ofName? t.name = some t := by
  cases t <;> rfl

theorem ofName?_isSome (s : String) : (ofName? s).isSome = all.any fun t => t.name == s := by
  rw [Bool.eq_iff_iff, ofName?, List.find?_isSome, List.any_eq_true]

theorem name_of_ofName? {s : String} {t : ToolKind} (h : ofName? s = some t) : t.name = s := by
  simpa using List.find?_some h

theorem name_ne_empty (t : ToolKind) : t.name ≠ "" := by
  cases t <;> decide

/-- The name of a kind that may not have been picked, which is empty if it has not. -/
def optionalName (kind : Option ToolKind) : String :=
  (kind.map name).getD ""

theorem optionalName_injective : Function.Injective optionalName := by
  intro a b h
  cases a with
  | none =>
    cases b with
    | none => rfl
    | some t => exact absurd h.symm t.name_ne_empty
  | some t =>
    cases b with
    | none => exact absurd h t.name_ne_empty
    | some u =>
      have hn : t.name = u.name := h
      rw [← ofName?_name t, hn, ofName?_name]

end ToolKind

/-! ### Edits that are accepted -/

/-- Whether the field of an edit takes the value of the edit: the flag of a draft takes a truth
value, a setting anything, and the others take a text, which for the kind must be empty or name
one. -/
def DraftEdit.fits (e : DraftEdit) : Bool :=
  match e.field, e.value with
  | .name, .text _ | .description, .text _ | .code, .text _ => true
  | .kind, .text s => s == "" || ToolKind.all.any fun t => t.name == s
  | .active, .flag _ => true
  | .setting _, _ => true
  | _, _ => false

namespace Draft

variable {d d' : Draft} {e : DraftEdit} {es : List DraftEdit}

/-- The edit alone decides whether it is accepted. -/
theorem apply_isOk (d : Draft) (e : DraftEdit) : (d.apply e).isOk = e.fits := by
  obtain ⟨field, value⟩ := e
  cases field with
  | kind =>
    cases value with
    | flag b => rfl
    | text s =>
      by_cases hs : s = ""
      · subst hs
        rfl
      · have hempty : (s == "") = false := beq_eq_false_iff_ne.2 hs
        simp only [apply, if_neg hs, ToolKind.ofName, DraftEdit.fits, hempty, Bool.false_or,
          ← ToolKind.ofName?_isSome]
        cases ToolKind.ofName? s <;> rfl
  | _ => cases value <;> rfl

/-! ### What the fields hold -/

/-- What a field holds. The kind reads as its name; a setting may hold nothing. -/
def value? (d : Draft) : DraftField → Option Setting
  | .name => some (.text d.name)
  | .description => some (.text d.description)
  | .kind => some (.text (ToolKind.optionalName d.kind))
  | .code => some (.text d.code)
  | .active => some (.flag d.active)
  | .setting key => d.settings.get? key

/-- There is no more to a draft than its fields and its parameters. -/
theorem ext_value? (hv : ∀ f, d.value? f = d'.value? f) (hp : d.parameters = d'.parameters) :
    d = d' := by
  have hname : d.name = d'.name := by simpa [value?] using hv .name
  have hdescription : d.description = d'.description := by simpa [value?] using hv .description
  have hkind : d.kind = d'.kind :=
    ToolKind.optionalName_injective (by simpa [value?] using hv .kind)
  have hcode : d.code = d'.code := by simpa [value?] using hv .code
  have hactive : d.active = d'.active := by simpa [value?] using hv .active
  have hsettings : d.settings = d'.settings := KeyMap.ext_get? fun key => hv (.setting key)
  cases d
  cases d'
  simp_all

/-- An accepted edit puts its value into its own field, and nothing else changes. -/
theorem Applies.value? (h : d.Applies e d') (f : DraftField) :
    d'.value? f = if f = e.field then some e.value else d.value? f := by
  cases h with
  | picked hs ht =>
    cases f <;> simp [Draft.value?, ToolKind.optionalName, ToolKind.name_of_ofName? ht]
  | setting key v => cases f <;> simp [Draft.value?, KeyMap.get?_insert]
  | _ => cases f <;> simp [Draft.value?, ToolKind.optionalName]

theorem Applies.parameters (h : d.Applies e d') : d'.parameters = d.parameters := by
  cases h <;> rfl

/-! ### Histories of edits -/

/-- The draft behind an edit, which is the same draft if the edit is rejected. -/
def amend (d : Draft) (e : DraftEdit) : Draft :=
  match d.apply e with
  | .ok d' => d'
  | .error _ => d

/-- The draft behind a history of edits. -/
def amendAll (d : Draft) (es : List DraftEdit) : Draft :=
  es.foldl amend d

/-- The value of the latest accepted edit of a field, if there is one. -/
def latestValue? (es : List DraftEdit) (f : DraftField) : Option Setting :=
  (es.reverse.find? fun e => e.fits ∧ f = e.field).map (·.value)

theorem value?_amend (d : Draft) (e : DraftEdit) (f : DraftField) :
    (d.amend e).value? f = if e.fits ∧ f = e.field then some e.value else d.value? f := by
  have hok := d.apply_isOk e
  unfold amend
  cases ha : d.apply e with
  | ok d' =>
    have hfits : e.fits = true := by rw [← hok, ha]; rfl
    simp [(applies_of_apply ha).value? f, hfits]
  | error x =>
    have hfits : e.fits = false := by rw [← hok, ha]; rfl
    simp [hfits]

theorem parameters_amend (d : Draft) (e : DraftEdit) :
    (d.amend e).parameters = d.parameters := by
  unfold amend
  split
  · rename_i ha
    exact (applies_of_apply ha).parameters
  · rfl

/-- A rejected edit changes nothing. -/
theorem amend_of_not_fits (d : Draft) (he : e.fits = false) : d.amend e = d :=
  ext_value? (fun f => by simp [value?_amend, he]) (d.parameters_amend e)

/-- Edits of different fields commute. -/
theorem amend_comm (d : Draft) {e e' : DraftEdit} (he : e.field ≠ e'.field) :
    (d.amend e).amend e' = (d.amend e').amend e := by
  refine ext_value? (fun f => ?_) (by simp only [parameters_amend])
  simp only [value?_amend]
  by_cases hf : f = e.field
  · have hf' : f ≠ e'.field := fun h => he (hf.symm.trans h)
    simp [hf']
  · simp [hf]

theorem value?_amendAll (d : Draft) (es : List DraftEdit) (f : DraftField) :
    (d.amendAll es).value? f = (latestValue? es f).or (d.value? f) :=
  History.view_foldl value? value?_amend d es f

theorem parameters_amendAll (d : Draft) (es : List DraftEdit) :
    (d.amendAll es).parameters = d.parameters := by
  induction es generalizing d with
  | nil => rfl
  | cons e es ih => rw [amendAll, List.foldl_cons, ← amendAll, ih, parameters_amend]

/-- Rejected edits can be left out. -/
theorem amendAll_filter_fits (d : Draft) (es : List DraftEdit) :
    d.amendAll (es.filter DraftEdit.fits) = d.amendAll es :=
  History.foldl_filter (fun d _ he => d.amend_of_not_fits he) d es

/-- The order of edits does not matter if no two of them are of the same field. -/
theorem amendAll_perm (d : Draft) {es' : List DraftEdit} (hp : es'.Perm es)
    (hn : (es.map (·.field)).Nodup) : d.amendAll es' = d.amendAll es :=
  History.foldl_perm (fun d _ _ he => d.amend_comm he) d hp hn

/-- **The latest accepted edit of each field determines the draft.** Whether an edit is accepted
does not depend on the draft; rejected edits can be left out, and edits of different fields can be
made in any order. -/
theorem amendAll_settled (d : Draft) (es : List DraftEdit) :
    (∀ (found : Draft) (e : DraftEdit), (found.apply e).isOk = e.fits) ∧
      (∀ d', d.amendAll es = d' ↔
        (∀ f, d'.value? f = (latestValue? es f).or (d.value? f)) ∧
          d'.parameters = d.parameters) ∧
      d.amendAll (es.filter DraftEdit.fits) = d.amendAll es ∧
      ∀ es', es'.Perm es → (es.map (·.field)).Nodup → d.amendAll es' = d.amendAll es := by
  refine ⟨apply_isOk, fun d' => ⟨?_, ?_⟩, d.amendAll_filter_fits es,
    fun es' => d.amendAll_perm⟩
  · rintro rfl
    exact ⟨d.value?_amendAll es, d.parameters_amendAll es⟩
  · rintro ⟨hv, hp⟩
    refine ext_value? (fun f => ?_) ((d.parameters_amendAll es).trans hp.symm)
    rw [hv, value?_amendAll]

/-- The kind that was picked last stays, whatever is rejected behind it. -/
example : (empty.amendAll [⟨.kind, .text "sap"⟩, ⟨.kind, .text "rag"⟩, ⟨.active, .text "true"⟩,
    ⟨.kind, .text "SAP"⟩]).kind = some .rag := by
  decide

end Draft

end ToolAuthoring
