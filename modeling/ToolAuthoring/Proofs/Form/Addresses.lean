import ToolAuthoring.Proofs.Form.Connections
import ToolAuthoring.Proofs.KeyMap.Permutation

/-!
# How inputs are addressed

An input is edited under its key, and reported under its path.  A sheet can have one key in several
fields, as the two ways to sign in to Salesforce with a user name do; what keeps them apart in a form
is that their gates are never open together, whatever the settings hold.

* `ShownForm.Under`: the paths of a form, below a base.
* `ShownForm.Unambiguous`: each key and each path stands for one input, and
  `ShownForm.unambiguous_of_nodup`: so it is if no key is shown twice.
* `ConnectionField.Excludes`: two gates that are never open together, and
  `ConnectionSheet.Disjoint`: fields with one key have such gates.
* `OperationSheet.Distinct`: the fields of each operation have keys of their own.
* `Integration.forms_unambiguous`: **in the forms of the integrations no key is shown twice**.
-/

namespace ToolAuthoring

/-! ### Forms -/

namespace ShownForm

variable {form : ShownForm} {base key x : String} {i : ShownInput} {u : FormUpdate}

/-- The inputs are reported under their keys, below a base path. -/
def Under (form : ShownForm) (base : String) : Prop :=
  ∀ i ∈ form.inputs, i.path = base ++ "." ++ i.key

/-- No key and no path is shown twice: a key finds the only input that has it, and an edit that is
accepted is one of a single input. -/
structure Unambiguous (form : ShownForm) : Prop where
  keys : form.keys.Nodup
  paths : (form.inputs.map ShownInput.path).Nodup
  input : ∀ key i, form.input? key = some i ↔ i ∈ form.inputs ∧ i.key = key
  edit : ∀ key x u, form.edit key x = .ok u → u = ⟨key, x⟩ ∧ form.keys.count key = 1

theorem mem_of_input? (h : form.input? key = some i) : i ∈ form.inputs ∧ i.key = key :=
  ⟨List.mem_of_find?_eq_some h, by simpa using List.find?_some h⟩

theorem isSome_input?_iff : (form.input? key).isSome ↔ key ∈ form.keys := by
  rw [input?, List.find?_isSome, keys, List.mem_map]
  simp

theorem exists_input? (h : i ∈ form.inputs) : ∃ j, form.input? i.key = some j :=
  Option.isSome_iff_exists.1 (isSome_input?_iff.2 (List.mem_map_of_mem h))

/-- An edit is accepted exactly if its key is shown, and its value is taken as it is. -/
theorem edit_eq_ok_iff : form.edit key x = .ok u ↔ u = ⟨key, x⟩ ∧ key ∈ form.keys := by
  rw [← isSome_input?_iff, edit]
  cases form.input? key with
  | none => simp
  | some i => simp [eq_comm]

theorem nodup_paths (hbase : form.Under base) (hkeys : form.keys.Nodup) :
    (form.inputs.map ShownInput.path).Nodup := by
  have hpaths : form.inputs.map ShownInput.path = form.keys.map fun key => base ++ "." ++ key := by
    rw [keys, List.map_map]
    exact List.map_congr_left hbase
  rw [hpaths]
  exact hkeys.map fun key key' h => (String.append_right_inj (base ++ ".")).1 h

theorem unambiguous_of_nodup (hbase : form.Under base) (hkeys : form.keys.Nodup) :
    form.Unambiguous where
  keys := hkeys
  paths := nodup_paths hbase hkeys
  input := fun _ _ => find?_key_eq_some_iff hkeys
  edit := by
    intro key x u hedit
    obtain ⟨hu, hkey⟩ := edit_eq_ok_iff.1 hedit
    exact ⟨hu, List.count_eq_one_of_mem hkeys hkey⟩

end ShownForm

/-! ### Connection forms -/

/-- Two fields that are never shown together: their gates look at the same key, and no value opens
both. -/
def ConnectionField.Excludes (f g : ConnectionField) : Prop :=
  ∃ a ∈ f.gate, ∃ b ∈ g.gate, a.key = b.key ∧ ∀ v ∈ a.values, v ∉ b.values

instance : DecidableRel ConnectionField.Excludes := fun f g =>
  inferInstanceAs (Decidable (∃ a ∈ f.gate, ∃ b ∈ g.gate, a.key = b.key ∧ ∀ v ∈ a.values, _))

namespace ConnectionSheet

variable {sheet : ConnectionSheet} {s : Settings} {f g : ConnectionField}

/-- Fields with one key exclude each other. -/
def Disjoint (sheet : ConnectionSheet) : Prop :=
  sheet.fields.Pairwise fun f g => f.field.key = g.field.key → f.Excludes g

instance : DecidablePred Disjoint := fun sheet =>
  inferInstanceAs (Decidable (sheet.fields.Pairwise _))

theorem not_shows_of_excludes (h : f.Excludes g) (hf : sheet.shows s f) : ¬ sheet.shows s g := by
  obtain ⟨a, ha, b, hb, hkey, hvalues⟩ := h
  rw [Option.mem_def] at ha hb
  simp only [shows, ha, hb, List.contains_iff_mem, hkey] at hf ⊢
  exact hvalues _ hf

theorem under_render (sheet : ConnectionSheet) (s : Settings) : (sheet.render s).Under "config" := by
  intro i hi
  obtain ⟨f, -, -, rfl⟩ := mem_inputs_render.1 hi
  rfl

/-- Of the fields with one key at most one is shown. -/
theorem Disjoint.nodup_keys (h : sheet.Disjoint) (s : Settings) : (sheet.render s).keys.Nodup := by
  have hkeys : (sheet.render s).keys = (sheet.shownFields s).map fun f => f.field.key := by
    rw [ShownForm.keys, inputs_render, List.map_map]
    rfl
  rw [hkeys, List.Nodup, List.pairwise_map]
  refine (h.filter (sheet.shows s)).imp_of_mem fun {f g} hf hg hexcludes hkey => ?_
  exact not_shows_of_excludes (hexcludes hkey) (List.of_mem_filter hf) (List.of_mem_filter hg)

end ConnectionSheet

/-! ### Operation forms -/

namespace OperationSheet

variable {sheet : OperationSheet}

/-- The fields of each operation have keys of their own, which are not that of the selector. -/
def Distinct (sheet : OperationSheet) : Prop :=
  ∀ op ∈ sheet.operations, (selectorKey :: op.fields.map FormField.key).Nodup

instance : DecidablePred Distinct := fun sheet =>
  inferInstanceAs (Decidable (∀ op ∈ sheet.operations, _))

theorem inputs_renderAt (sheet : OperationSheet) (base : String) (s : Settings) :
    (sheet.renderAt base s).inputs = sheet.selector base ((s.text? selectorKey).getD "") ::
      (sheet.fieldsOf ((s.text? selectorKey).getD "")).map fun f =>
        .ofField f base (s.textOr f.key f.default) := by
  rw [renderAt, ShownForm.inputs, List.flatMap_singleton]

theorem under_renderAt (sheet : OperationSheet) (base : String) (s : Settings) :
    (sheet.renderAt base s).Under base := by
  intro i hi
  rw [inputs_renderAt] at hi
  rcases List.mem_cons.1 hi with rfl | hi
  · rfl
  · obtain ⟨f, -, rfl⟩ := List.mem_map.1 hi
    rfl

theorem keys_renderAt (sheet : OperationSheet) (base : String) (s : Settings) :
    (sheet.renderAt base s).keys =
      selectorKey :: (sheet.fieldsOf ((s.text? selectorKey).getD "")).map FormField.key := by
  rw [ShownForm.keys, inputs_renderAt, List.map_cons, List.map_map]
  rfl

theorem Distinct.nodup_keys (h : sheet.Distinct) (base : String) (s : Settings) :
    (sheet.renderAt base s).keys.Nodup := by
  rw [keys_renderAt, fieldsOf]
  split
  · rename_i op hop
    exact h op (List.mem_of_find?_eq_some hop)
  · -- of an unknown operation there is the selector alone
    exact List.nodup_singleton selectorKey

end OperationSheet

/-! ### The forms of the integrations -/

theorem Integration.connection_disjoint (i : Integration) : i.connection.Disjoint := by
  cases i <;> decide +kernel

theorem Integration.operations_distinct (i : Integration) : i.operations.Distinct := by
  cases i <;> decide +kernel

/-- **In the forms of the integrations no key is shown twice**, whatever is stored: neither in a
connection form nor in an operation form, where the selector has a key of its own. So a key finds
the only input that has it, no path is shown twice either, and an edit that is accepted is one of a
single input. -/
theorem Integration.forms_unambiguous (i : Integration) (s : Settings) :
    (i.connection.render s).Unambiguous ∧ ∀ base,
      (i.operations.renderAt base s).Unambiguous ∧
        OperationSheet.selectorKey ∈ (i.operations.renderAt base s).keys := by
  refine ⟨?_, fun base => ⟨?_, ?_⟩⟩
  · exact ShownForm.unambiguous_of_nodup (i.connection.under_render s)
      (i.connection_disjoint.nodup_keys s)
  · exact ShownForm.unambiguous_of_nodup (i.operations.under_renderAt base s)
      (i.operations_distinct.nodup_keys base s)
  · rw [OperationSheet.keys_renderAt]
    exact List.mem_cons_self

/-- The sheets themselves do repeat keys. -/
example : ¬ (Salesforce.connection.fields.map fun f => f.field.key).Nodup := by
  decide +kernel

end ToolAuthoring
