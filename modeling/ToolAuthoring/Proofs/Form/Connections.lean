import Mathlib.Data.List.Forall2
import ToolAuthoring.Form.Basic
import ToolAuthoring.Proofs.Draft.SettingTexts
import ToolAuthoring.Sheet.Builtin

/-!
# What a connection form shows

A connection form shows the fields of its sheet whose gates are open, each with the value in effect
under its key.  Where nothing is stored that is a default, and there is one default for each key,
that of the first field with the key.  So a field that shares its key with an earlier one may show a
default that is not its own.

* `ConnectionSheet.inputs_render`: the inputs of the form, one for each field that is shown.
* `ConnectionSheet.defaultFor_eq`: the default of a key.
* `ConnectionSheet.own_text_iff`: **an input goes by its own field exactly if a text is stored or the
  first field with its key has the same default**.
* `Integration.connection_own_text`: the connection forms of the integrations always do.
-/

namespace ToolAuthoring

/-- What is stored for a field, or its own default where no text or the empty one is stored. -/
def ConnectionField.ownText (f : ConnectionField) (s : Settings) : String :=
  ((s.text? f.field.key).filter (· != "")).getD f.field.default

namespace ConnectionSheet

variable {sheet : ConnectionSheet} {s s' : Settings} {f : ConnectionField}

/-! ### Inputs -/

/-- The input in which a field is shown while its gate is open. -/
def inputFor (sheet : ConnectionSheet) (s : Settings) (f : ConnectionField) : ShownInput :=
  .ofField f.field "config" (sheet.inEffect s f.field.key)

/-- The fields whose gates are open, in display order. -/
def shownFields (sheet : ConnectionSheet) (s : Settings) : List ConnectionField :=
  sheet.fields.filter (sheet.shows s)

theorem inputs_render (sheet : ConnectionSheet) (s : Settings) :
    (sheet.render s).inputs = (sheet.shownFields s).map (sheet.inputFor s) := by
  rw [shownFields, fields, List.filter_flatMap, List.map_flatMap, ShownForm.inputs, render,
    List.flatMap_map]
  rfl

theorem mem_inputs_render {i : ShownInput} : i ∈ (sheet.render s).inputs ↔
    ∃ f ∈ sheet.fields, sheet.shows s f ∧ sheet.inputFor s f = i := by
  rw [inputs_render, shownFields]
  simp [and_assoc]

/-- A form depends on its settings only through the values in effect. -/
theorem render_congr (h : ∀ key, sheet.inEffect s key = sheet.inEffect s' key) :
    sheet.render s = sheet.render s' := by
  have heffect : sheet.inEffect s = sheet.inEffect s' := funext h
  have hshows : sheet.shows s = sheet.shows s' := by
    funext f
    rw [shows, shows, heffect]
  have hsection : sheet.showSection s = sheet.showSection s' := by
    funext part
    rw [showSection, showSection, hshows, heffect]
  rw [render, render, hsection]

/-- An overview depends on its settings only through the values in effect of the public fields. -/
theorem overview_congr (name : String) (h : ∀ f ∈ sheet.fields, isPublic f →
    sheet.inEffect s f.field.key = sheet.inEffect s' f.field.key) :
    sheet.overview name s = sheet.overview name s' := by
  have hentries : (sheet.fields.filter isPublic).map
        (fun f => (f.field.key, sheet.inEffect s f.field.key)) =
      (sheet.fields.filter isPublic).map
        fun f => (f.field.key, sheet.inEffect s' f.field.key) := by
    refine List.map_congr_left fun f hf => ?_
    obtain ⟨hmem, hpublic⟩ := List.mem_filter.1 hf
    rw [h f hmem hpublic]
  rw [overview, overview, hentries]

/-! ### Defaults -/

/-- The first field with a key. -/
def leading? (sheet : ConnectionSheet) (key : String) : Option ConnectionField :=
  sheet.fields.find? fun f => f.field.key == key

theorem defaultFor_eq (sheet : ConnectionSheet) (key : String) :
    sheet.defaultFor key = ((sheet.leading? key).map (·.field.default)).getD "" := by
  have hfirst : (sheet.fields.map ConnectionField.field).find? (fun f => f.key == key) =
      (sheet.leading? key).map ConnectionField.field := List.find?_map
  rw [defaultFor, defaultOf, hfirst]
  cases sheet.leading? key <;> rfl

theorem exists_leading (hf : f ∈ sheet.fields) : ∃ g ∈ sheet.fields,
    sheet.leading? f.field.key = some g ∧ g.field.key = f.field.key := by
  have hsome : (sheet.leading? f.field.key).isSome :=
    List.find?_isSome.2 ⟨f, hf, beq_self_eq_true f.field.key⟩
  obtain ⟨g, hg⟩ := Option.isSome_iff_exists.1 hsome
  exact ⟨g, List.mem_of_find?_eq_some hg, hg, by simpa using List.find?_some hg⟩

theorem inEffect_eq {g : ConnectionField} {key : String} (hg : sheet.leading? key = some g) :
    sheet.inEffect s key = s.textOr key g.field.default := by
  rw [inEffect, defaultFor_eq, hg]
  rfl

theorem ownText_eq (f : ConnectionField) (s : Settings) :
    f.ownText s = s.textOr f.field.key f.field.default :=
  (s.textOr_eq f.field.key f.field.default).symm

/-- **An input goes by its own field exactly if a text is stored or the first field with its key has
the same default.** It always shows the stored text or the default of that first field. -/
theorem own_text_iff (sheet : ConnectionSheet) (s : Settings) :
    List.Forall₂ (fun f i => ∃ g, sheet.leading? f.field.key = some g ∧
        i = .ofField f.field "config"
          (((s.text? f.field.key).filter (· != "")).getD g.field.default) ∧
        (i.value = f.ownText s ↔
          (∃ x, s.text? f.field.key = some x ∧ x ≠ "") ∨ g.field.default = f.field.default))
      (sheet.shownFields s) (sheet.render s).inputs := by
  rw [inputs_render, List.forall₂_map_right_iff, List.forall₂_same]
  intro f hf
  obtain ⟨g, -, hg, -⟩ := exists_leading (List.mem_of_mem_filter hf)
  refine ⟨g, hg, ?_, ?_⟩
  · rw [inputFor, inEffect_eq hg, Settings.textOr_eq]
  · rw [ownText_eq, ← Settings.textOr_eq_textOr_iff, ← inEffect_eq hg]
    rfl

/-- A gateway with one port for each way to sign in. -/
def gateway : ConnectionSheet where
  integration := .sap
  title := "Gateway Configuration"
  banner := "Gateway Integration"
  sections := [
    ⟨"Connection Settings", [
      .always (FormField.select "auth_type" "Auth Type"
        [⟨"basic", "Basic Authentication"⟩, ⟨"oauth", "OAuth 2.0"⟩] "basic"),
      .gated (FormField.text "port" "Port" |>.showing "8080") "auth_type" ["basic"],
      .gated (FormField.text "port" "Port" |>.showing "8443") "auth_type" ["oauth"]]⟩]

/-- The second way to sign in is chosen, and no port is stored. -/
def secondWay : Settings := .ofList [("auth_type", .text "oauth")]

/-- The port of the second way is shown with the default of the first. -/
theorem not_own_text_gateway :
    ¬ List.Forall₂ (fun f i => i.value = f.ownText secondWay) (gateway.shownFields secondWay)
      (gateway.render secondWay).inputs := by
  decide

end ConnectionSheet

/-- Fields of an integration that share a key share a default. -/
theorem Integration.connection_agree (i : Integration) : ∀ f ∈ i.connection.fields,
    ∀ g ∈ i.connection.fields, f.field.key = g.field.key → f.field.default = g.field.default := by
  cases i <;> decide +kernel

/-- In the connection form of an integration every input goes by its own field. -/
theorem Integration.connection_own_text (i : Integration) (s : Settings) :
    List.Forall₂ (fun f shown => shown.value = f.ownText s) (i.connection.shownFields s)
      (i.connection.render s).inputs := by
  rw [ConnectionSheet.inputs_render, List.forall₂_map_right_iff, List.forall₂_same]
  intro f hshown
  have hf : f ∈ i.connection.fields := List.mem_of_mem_filter hshown
  obtain ⟨g, hg, hleading, hkey⟩ := ConnectionSheet.exists_leading hf
  calc (i.connection.inputFor s f).value
      = s.textOr f.field.key g.field.default := ConnectionSheet.inEffect_eq hleading
    _ = s.textOr f.field.key f.field.default := by rw [i.connection_agree g hg f hf hkey]
    _ = f.ownText s := (ConnectionSheet.ownText_eq f s).symm

end ToolAuthoring
