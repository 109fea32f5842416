import ToolAuthoring.Proofs.KeyMap.Permutation
import ToolAuthoring.Sheet.Operation

/-!
# The fields of a sheet, each key once

The operations of a sheet can have fields with one key.  Of these the first counts: it stands for the
key among all fields of the sheet, and its default is what is shown under the key while nothing is
stored.  The fields are gone through once, and what holds of those that are kept goes on to hold
with each one more.

* `OperationSheet.addNew_cases`: a field is left out if its key has been seen, and else put last.
* `OperationSheet.Firsts`: of some fields those are kept that are the first with their key.
* `OperationSheet.Firsts.addNew`, `OperationSheet.Firsts.foldl`: so it stays with one more field, and
  with all that follow.
* `OperationSheet.allFields_leading`: **of the fields with one key a sheet keeps the first**.
-/

namespace ToolAuthoring

namespace OperationSheet

variable {sheet : OperationSheet} {fs kept : List FormField} {f : FormField} {key : String}

/-! ### One more field -/

theorem addNew_cases (kept : List FormField) (f : FormField) :
    (∃ g ∈ kept, g.key = f.key) ∧ addNew kept f = kept ∨
      (∀ g ∈ kept, g.key ≠ f.key) ∧ addNew kept f = kept ++ [f] := by
  by_cases hseen : ∃ g ∈ kept, g.key = f.key
  · exact .inl ⟨hseen, if_pos (by simpa using hseen)⟩
  · exact .inr ⟨by simpa using hseen, if_neg (by simpa using hseen)⟩

theorem addNew_sublist (kept : List FormField) (f : FormField) :
    (addNew kept f).Sublist (kept ++ [f]) := by
  rcases addNew_cases kept f with ⟨-, hadd⟩ | ⟨-, hadd⟩
  · rw [hadd]
    exact List.sublist_append_left kept [f]
  · rw [hadd]

theorem nodup_keys_addNew (h : (kept.map FormField.key).Nodup) :
    ((addNew kept f).map FormField.key).Nodup := by
  rcases addNew_cases kept f with ⟨-, hadd⟩ | ⟨hnew, hadd⟩
  · rwa [hadd]
  · rw [hadd, List.map_append, List.map_singleton]
    refine List.nodup_append.2 ⟨h, List.nodup_singleton f.key, ?_⟩
    simpa using hnew

/-- A field that is left out is not the first with its key. -/
theorem find?_addNew (kept : List FormField) (f : FormField) (key : String) :
    ((addNew kept f).find? fun g => g.key == key) = (kept ++ [f]).find? fun g => g.key == key := by
  rcases addNew_cases kept f with ⟨⟨g, hg, hkey⟩, hadd⟩ | ⟨-, hadd⟩
  · rw [hadd, List.find?_append]
    by_cases hf : f.key = key
    · have hseen : (kept.find? fun g => g.key == key).isSome :=
        List.find?_isSome.2 ⟨g, hg, by simp [hkey, hf]⟩
      rw [Option.or_of_isSome hseen]
    · simp [hf]
  · rw [hadd]

/-! ### The fields that are kept -/

/-- Of `fs` those fields are kept, in order, that are the first with their key. -/
structure Firsts (fs kept : List FormField) : Prop where
  distinct : (kept.map FormField.key).Nodup
  ordered : kept.Sublist fs
  first : ∀ key, (kept.find? fun f => f.key == key) = fs.find? fun f => f.key == key

theorem exists_key_iff {fs : List FormField} :
    (∃ f ∈ fs, f.key = key) ↔ (fs.find? fun f => f.key == key).isSome := by
  simp

namespace Firsts

theorem addNew (h : Firsts fs kept) (f : FormField) :
    Firsts (fs ++ [f]) (OperationSheet.addNew kept f) where
  distinct := nodup_keys_addNew h.distinct
  ordered := (addNew_sublist kept f).trans (h.ordered.append (.refl [f]))
  first := by
    intro key
    rw [find?_addNew, List.find?_append, h.first, ← List.find?_append]

theorem foldl (h : Firsts fs kept) (more : List FormField) :
    Firsts (fs ++ more) (more.foldl OperationSheet.addNew kept) := by
  induction more generalizing fs kept with
  | nil => rwa [List.append_nil]
  | cons f more ih =>
    rw [List.append_cons]
    exact ih (h.addNew f)

/-- No key is lost with the fields that are left out. -/
theorem exists_key (h : Firsts fs kept) :
    (∃ f ∈ kept, f.key = key) ↔ ∃ f ∈ fs, f.key = key := by
  rw [exists_key_iff, exists_key_iff, h.first]

/-- A field that is kept is found under its key. -/
theorem find?_key (h : Firsts fs kept) (hf : f ∈ kept) :
    (kept.find? fun g => g.key == f.key) = some f :=
  (find?_key_eq_some_iff h.distinct).2 ⟨hf, rfl⟩

/-- A field that is kept has none with its key before it. -/
theorem leading (h : Firsts fs kept) (hf : f ∈ kept) :
    ∃ before after, fs = before ++ f :: after ∧ ∀ g ∈ before, g.key ≠ f.key := by
  have hfirst := (h.first f.key).symm.trans (h.find?_key hf)
  obtain ⟨-, before, after, hfs, hbefore⟩ := List.find?_eq_some_iff_append.1 hfirst
  exact ⟨before, after, hfs, fun g hg => by simpa using hbefore g hg⟩

end Firsts

/-! ### All fields of a sheet -/

theorem firsts_allFields (sheet : OperationSheet) : Firsts sheet.everyField sheet.allFields := by
  have hempty : Firsts [] [] := ⟨List.nodup_nil, .slnil, fun _ => rfl⟩
  exact hempty.foldl sheet.everyField

theorem mem_everyField_of_allFields (h : f ∈ sheet.allFields) : f ∈ sheet.everyField :=
  sheet.firsts_allFields.ordered.subset h

theorem exists_key_allFields :
    (∃ f ∈ sheet.allFields, f.key = key) ↔ ∃ f ∈ sheet.everyField, f.key = key :=
  sheet.firsts_allFields.exists_key

theorem exists_key_everyField : (∃ f ∈ sheet.everyField, f.key = key) ↔
    ∃ op ∈ sheet.operations, ∃ f ∈ op.fields, f.key = key := by
  simp only [everyField, List.mem_flatMap]
  tauto

theorem defaultFor_of_mem (h : f ∈ sheet.allFields) : sheet.defaultFor f.key = f.default := by
  rw [defaultFor, defaultOf, sheet.firsts_allFields.find?_key h]

theorem defaultFor_of_forall (h : ∀ op ∈ sheet.operations, ∀ f ∈ op.fields, f.key ≠ key) :
    sheet.defaultFor key = "" := by
  have hnone : ¬ (sheet.allFields.find? fun f => f.key == key).isSome := by
    rw [← exists_key_iff, exists_key_allFields, exists_key_everyField]
    rintro ⟨op, hop, f, hf, hkey⟩
    exact h op hop f hf hkey
  rw [defaultFor, defaultOf, Option.not_isSome_iff_eq_none.1 hnone]

/-- Each key of a sheet is kept with one field: the fields that are kept are in order, there is one
for each key of an operation, and it is the first field with its key. Its default is shown under the
key; under a key of no operation nothing is shown. -/
structure KeepsFirst (sheet : OperationSheet) : Prop where
  distinct : (sheet.allFields.map FormField.key).Nodup
  ordered : sheet.allFields.Sublist sheet.everyField
  complete : ∀ key, (∃ f ∈ sheet.allFields, f.key = key) ↔
    ∃ op ∈ sheet.operations, ∃ f ∈ op.fields, f.key = key
  leading : ∀ f ∈ sheet.allFields, ∃ before after,
    sheet.everyField = before ++ f :: after ∧ ∀ g ∈ before, g.key ≠ f.key
  default : ∀ f ∈ sheet.allFields, sheet.defaultFor f.key = f.default
  missing : ∀ key, (∀ op ∈ sheet.operations, ∀ f ∈ op.fields, f.key ≠ key) →
    sheet.defaultFor key = ""

/-- **Of the fields with one key a sheet keeps the first**, however many operations and fields there
are and whatever keys are repeated. -/
theorem allFields_leading (sheet : OperationSheet) : sheet.KeepsFirst where
  distinct := sheet.firsts_allFields.distinct
  ordered := sheet.firsts_allFields.ordered
  complete := fun _ => exists_key_allFields.trans exists_key_everyField
  leading := fun _ => sheet.firsts_allFields.leading
  default := fun _ => defaultFor_of_mem
  missing := fun _ => defaultFor_of_forall

/-- The second operation would show something else under the key that both have. -/
example :
    let json := (FormField.text "format" "Format").showing "json"
    let xml := (FormField.text "format" "Format").showing "xml"
    let sheet : OperationSheet :=
      ⟨.sap, "", [⟨"get", "", [.text "id" "Id", json]⟩, ⟨"list", "", [xml, .text "page" "Page"]⟩]⟩
    sheet.allFields.map FormField.key = ["id", "format", "page"] ∧
      sheet.defaultFor "format" = "json" := by
  decide

end OperationSheet

end ToolAuthoring
