import ToolAuthoring.Form.Basic
import ToolAuthoring.Log.Record
import ToolAuthoring.Node.Basic
import ToolAuthoring.Draft.Edit
import ToolAuthoring.Sheet.Builtin

/-!
# Operation forms on nodes

A node is edited through the operation form of an integration. Its values are staged under the
integration; every edit makes a new node, and the old one stays as it was.
-/

namespace ToolAuthoring

/-- The operation form of an integration, for use on nodes. -/
structure NodeForm where
  integration : Integration
deriving DecidableEq, Repr

namespace NodeForm

/-- The form for the tool that is attached to a node. -/
def ofNode (n : FlowNode) : Except FormError NodeForm :=
  match n.integration? with
  | some i => .ok ⟨i⟩
  | none => .error .noIntegration

/-- The sheet behind the form. -/
def sheet (form : NodeForm) : OperationSheet :=
  form.integration.operations

/-- The texts staged on a node, as settings. -/
def stagedSettings (form : NodeForm) (n : FlowNode) : Settings :=
  .ofTexts ((n.stagedFor form.integration).getD .empty)

/-- Store what is shown for a field. -/
def fillField (settings : Settings) (f : FormField) : Settings :=
  settings.insert f.key (.text (settings.textOr f.key f.default))

/-- The values of a node with nothing missing: each field of the sheet has its stored text or its
default, and the selector at least the empty text. Other stored values stay. -/
def filled (form : NodeForm) (n : FlowNode) : Settings :=
  let settings := form.sheet.allFields.foldl fillField (form.stagedSettings n)
  if settings.contains OperationSheet.selectorKey then settings
  else settings.insert OperationSheet.selectorKey (.text "")

/-- The path below which a node stages the values. -/
def base (form : NodeForm) : String :=
  "toolOperation." ++ form.integration.name

/-- The form as it is shown for a node. -/
def render (form : NodeForm) (n : FlowNode) : ShownForm :=
  form.sheet.renderAt form.base (form.filled n)

/-- Stage an update. A new operation must be one of the sheet's, or empty; any other value is taken
as it is. -/
def apply (form : NodeForm) (n : FlowNode) (u : FormUpdate) : Except FormError FlowNode :=
  if u.key = OperationSheet.selectorKey ∧ u.value ≠ "" ∧ form.sheet.operation? u.value = none then
    .error (.unknownOperation form.integration u.value)
  else .ok (n.stage form.integration u.key u.value)

/-- What staging an update logs. -/
def applied (form : NodeForm) (n : FlowNode) (key : String) : LogRecord :=
  ⟨.debug, .nodeForm, "Node " ++ n.id ++ ": " ++ form.base ++ "." ++ key ++ " updated"⟩

/-- Edit an input that is shown, and stage the update. -/
def edit (form : NodeForm) (n : FlowNode) (key value : String) : Except FormError FlowNode := do
  form.apply n (← (form.render n).edit key value)

end NodeForm

end ToolAuthoring
