import ToolAuthoring.Json.Document
import ToolAuthoring.KeyMap.Lemmas

/-!
# Values and their documents

A value at hand is a document without faults, and reading that document gives the value again: the
members of a value stand in the order of their keys, so no member is lost and none changes places.

* `Json.Canonical.value_document`: reading the document of a canonical text gives the text.
* `Document.value_document`, `Document.values_map_json`: **values survive as documents**.
* `Json.document_value`: reading the document of any text gives the value of the text.
-/

namespace ToolAuthoring

theorem KeyMap.ofList_of_ascending {κ α : Type} [Ord κ] [Std.TransOrd κ] [Std.LawfulEqOrd κ]
    {es : List (κ × α)} (h : Ascending es) : KeyMap.ofList es = ⟨es, h⟩ :=
  KeyMap.ofList_entries ⟨es, h⟩

namespace Document

/-- Values that can each be read can be read as the items of a list. -/
theorem values_of_forall {vs : List JsonValue} (h : ∀ v ∈ vs, v.json.document.value = .ok v) :
    values (Json.documents (vs.map (·.json))) = .ok vs := by
  induction vs with
  | nil => rfl
  | cons v vs ih =>
    simp only [List.map_cons, Json.documents, values, h v List.mem_cons_self,
      ih fun v' hv => h v' (List.mem_cons_of_mem _ hv)]
    rfl

/-- Values that can each be read can be read as the members of a record. -/
theorem memberValues_of_forall {ms : List (String × JsonValue)}
    (h : ∀ m ∈ ms, m.2.json.document.value = .ok m.2) :
    memberValues (Json.memberDocuments (ms.map fun m => (m.1, m.2.json))) = .ok ms := by
  induction ms with
  | nil => rfl
  | cons m ms ih =>
    simp only [List.map_cons, Json.memberDocuments, memberValues, h m List.mem_cons_self,
      ih fun m' hm => h m' (List.mem_cons_of_mem _ hm)]
    rfl

end Document

/-- Reading the document of a canonical text gives the text. -/
theorem Json.Canonical.value_document {j : Json} (h : j.Canonical) :
    j.document.value = .ok ⟨j, h⟩ := by
  induction h with
  | null | bool | number | text => rfl
  | @list items hall ih =>
    obtain ⟨vs, rfl⟩ : ∃ vs : List JsonValue, vs.map (·.json) = items :=
      ⟨items.attach.map fun j => ⟨j.1, hall j.1 j.2⟩, by
        rw [List.map_map]
        exact List.attach_map_subtype_val items⟩
    have hvs := Document.values_of_forall fun v hv => ih v.json (List.mem_map_of_mem hv)
    simp only [Json.document, Document.value, hvs]
    rfl
  | @record members hasc hall ih =>
    obtain ⟨ms, rfl⟩ : ∃ ms : List (String × JsonValue),
        ms.map (fun m => (m.1, m.2.json)) = members :=
      ⟨members.attach.map fun m => (m.1.1, ⟨m.1.2, hall m.1 m.2⟩), by
        rw [List.map_map]
        exact List.attach_map_subtype_val members⟩
    have hms := Document.memberValues_of_forall fun m hm =>
      ih (m.1, m.2.json) (List.mem_map_of_mem (f := fun m => (m.1, m.2.json)) hm)
    have hasc' : Ascending ms := List.pairwise_map.1 hasc
    have hrecord : JsonValue.record (.ofList ms) = ⟨_, .record hasc hall⟩ :=
      JsonValue.ext (by rw [KeyMap.ofList_of_ascending hasc']; rfl)
    rw [← hrecord]
    simp only [Json.document, Document.value, hms]
    rfl

namespace Document

/-- **A value survives as a document.** -/
theorem value_document (v : JsonValue) : v.json.document.value = .ok v :=
  v.canonical.value_document

theorem values_map_json (vs : List JsonValue) :
    values (Json.documents (vs.map (·.json))) = .ok vs :=
  values_of_forall fun v _ => value_document v

end Document

namespace Json

theorem documents_eq_map (js : List Json) : documents js = js.map document := by
  induction js with
  | nil => rfl
  | cons j js ih => rw [documents, ih, List.map_cons]

theorem values_eq_map (js : List Json) : values js = js.map value := by
  induction js with
  | nil => rfl
  | cons j js ih => rw [values, ih, List.map_cons]

theorem memberDocuments_eq_map (ms : List (String × Json)) :
    memberDocuments ms = ms.map fun m => (.ok m.1, m.2.document) := by
  induction ms with
  | nil => rfl
  | cons m ms ih => rw [memberDocuments, ih, List.map_cons]

theorem memberValues_eq_map (ms : List (String × Json)) :
    memberValues ms = ms.map fun m => (m.1, m.2.value) := by
  induction ms with
  | nil => rfl
  | cons m ms ih => rw [memberValues, ih, List.map_cons]

mutual

/-- Reading the document of a text gives its value. -/
theorem document_value : ∀ j : Json, j.document.value = .ok j.value
  | .null | .bool _ | .number _ | .text _ => rfl
  | .list items => by
    simp only [document, Document.value, documents_values items, value]
    rfl
  | .record members => by
    simp only [document, Document.value, memberDocuments_values members, value]
    rfl

theorem documents_values : ∀ js : List Json, Document.values (documents js) = .ok (values js)
  | [] => rfl
  | j :: js => by
    simp only [documents, Document.values, document_value j, documents_values js, values]
    rfl

theorem memberDocuments_values : ∀ ms : List (String × Json),
    Document.memberValues (memberDocuments ms) = .ok (memberValues ms)
  | [] => rfl
  | (k, j) :: ms => by
    simp only [memberDocuments, Document.memberValues, document_value j,
      memberDocuments_values ms, memberValues]
    rfl

end

/-- A canonical text is its own value. -/
theorem Canonical.json_value {j : Json} (h : j.Canonical) : j.value.json = j := by
  have hv : j.value = ⟨j, h⟩ := Except.ok.inj (j.document_value.symm.trans h.value_document)
  rw [hv]

end Json

end ToolAuthoring
