import ToolAuthoring.Form.Registry
import ToolAuthoring.Proofs.Histories

/-!
# Registered forms

A registry is made of a list of forms at once, or by registering one form after the other.  Both
ways the last form of a kind counts, and all that a registry answers goes by the forms that count.

* `FormRegistry.lastOf`: the last form of a kind in a sequence.
* `FormRegistry.form?_ofForms`, `FormRegistry.form?_registerAll`: it is the form that counts.
* `FormRegistry.Holds`: what a registry answers that holds the forms of a sequence.
* `FormRegistry.holds_registerAll`: **a registry holds the forms it was made of, and those that were
  registered since**.
-/

namespace ToolAuthoring

theorem ToolKind.mem_all (t : ToolKind) : t ∈ ToolKind.all := by
  cases t <;> decide

theorem ToolKind.nodup_all : ToolKind.all.Nodup := by
  decide

namespace FormRegistry

/-- The registry in which all forms of a sequence have been registered, from first to last. -/
def registerAll (r : FormRegistry) (fs : List Form) : FormRegistry :=
  fs.foldl register r

/-- The last form of a kind in a sequence. -/
def lastOf (fs : List Form) (t : ToolKind) : Option Form :=
  (fs.filter fun f => f.kind == t).getLast?

/-! ### The form that counts -/

theorem ext_form? {r r' : FormRegistry} (h : ∀ t, r.form? t = r'.form? t) : r = r' := by
  cases r
  cases r'
  exact congrArg FormRegistry.mk (funext h)

theorem lastOf_append (fs gs : List Form) (t : ToolKind) :
    lastOf (fs ++ gs) t = (lastOf gs t).or (lastOf fs t) := by
  rw [lastOf, List.filter_append, List.getLast?_append]
  rfl

theorem form?_ofForms (fs : List Form) (t : ToolKind) : (ofForms fs).form? t = lastOf fs t :=
  List.getLast?_filter.symm

/-- Seen as a history of edits, a sequence of forms leaves the last form of each kind. -/
theorem latest?_eq_lastOf (fs : List Form) (t : ToolKind) :
    History.latest? (fun _ => true) Form.kind id fs t = lastOf fs t := by
  have htest : (fun f : Form => decide (true = true ∧ t = f.kind)) = fun f => f.kind == t := by
    funext f
    simp [beq_eq_decide, eq_comm]
  rw [lastOf, List.getLast?_filter, History.latest?, Option.map_id, htest]
  rfl

/-- Registered forms count before those of the registry, and of one kind the last does. -/
theorem form?_registerAll (r : FormRegistry) (fs : List Form) (t : ToolKind) :
    (r.registerAll fs).form? t = (lastOf fs t).or (r.form? t) := by
  rw [← latest?_eq_lastOf]
  refine History.view_foldl form? (fun r f t => ?_) r fs t
  simp [register, eq_comm]

/-- To make a registry of forms is to register them in order. -/
theorem ofForms_eq_registerAll (fs : List Form) : ofForms fs = empty.registerAll fs := by
  refine ext_form? fun t => ?_
  rw [form?_ofForms, form?_registerAll, empty, Option.or_none]

theorem form?_registerAll_ofForms (fs later : List Form) (t : ToolKind) :
    ((ofForms fs).registerAll later).form? t = lastOf (fs ++ later) t := by
  rw [form?_registerAll, form?_ofForms, lastOf_append]

/-! ### What a registry answers -/

/-- The registry answers as one that holds the forms of a sequence: a kind has the last form of that
kind, which is the one that is shown; and the kinds that have a form are listed once each, in the
order of the catalog. -/
structure Holds (r : FormRegistry) (fs : List Form) : Prop where
  form : ∀ t, r.form? t = lastOf fs t
  shown : ∀ t f, lastOf fs t = some f → ∀ s, r.render t s = .ok (f.render s)
  missing : ∀ t, lastOf fs t = none → ∀ s, r.render t s = .error (.noForm t)
  contains : ∀ t, r.contains t ↔ ∃ f, r.form? t = some f
  nodup : r.kinds.Nodup
  ordered : r.kinds.Sublist ToolKind.all
  listed : ∀ t, t ∈ r.kinds ↔ r.contains t

theorem holds_of_form? {r : FormRegistry} {fs : List Form} (h : ∀ t, r.form? t = lastOf fs t) :
    r.Holds fs where
  form := h
  shown := by
    intro t f hf s
    rw [render, h, hf]
  missing := by
    intro t hnone s
    rw [render, h, hnone]
  contains := fun t => Option.isSome_iff_exists
  nodup := ToolKind.nodup_all.filter r.contains
  ordered := List.filter_sublist
  listed := fun t => List.mem_filter.trans (and_iff_right t.mem_all)

/-- **A registry holds the forms it was made of, and those that were registered since.** It makes no
difference whether it was made of a list of forms or they were registered in order; the built-in
registry holds the connection forms of the integrations. -/
theorem holds_registerAll (fs later : List Form) :
    ofForms fs = empty.registerAll fs ∧
      ((ofForms fs).registerAll later).Holds (fs ++ later) ∧
        (builtin.registerAll later).Holds
          ((Integration.all.map fun i => i.connection.form) ++ later) :=
  ⟨ofForms_eq_registerAll fs, holds_of_form? (form?_registerAll_ofForms fs later),
    holds_of_form? (form?_registerAll_ofForms _ later)⟩

/-- The integrations are listed in the order of the catalog, not in that of their registration. -/
example : builtin.kinds = [.sap, .workday, .salesforce, .databricks] := by
  decide

end FormRegistry

end ToolAuthoring
