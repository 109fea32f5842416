import ToolAuthoring.Form.Basic
import ToolAuthoring.Log.Record
import ToolAuthoring.Sheet.Builtin

/-!
# The form registry

Which form configures a kind of tool. Of several forms registered for one kind the last counts.
-/

namespace ToolAuthoring

/-- At most one form for each kind of tool. -/
structure FormRegistry where
  form? : ToolKind → Option Form

namespace FormRegistry

/-- The registry without forms. -/
def empty : FormRegistry := ⟨fun _ => none⟩

/-- The registry of these forms; a later form of a kind stands in place of an earlier one. -/
def ofForms (forms : List Form) : FormRegistry :=
  ⟨fun t => forms.reverse.find? fun f => f.kind == t⟩

/-- The connection forms of the integrations. -/
def builtin : FormRegistry :=
  .ofForms (Integration.all.map fun i => i.connection.form)

/-- Register a form, in place of any other form of its kind. -/
def register (r : FormRegistry) (f : Form) : FormRegistry :=
  ⟨fun t => if f.kind = t then some f else r.form? t⟩

/-- What registering a form logs. -/
def registered (f : Form) : LogRecord :=
  ⟨.debug, .registry, "Registering form renderer " ++ f.name ++ " for " ++ f.kind.name⟩

/-- Show the form of a kind. -/
def render (r : FormRegistry) (kind : ToolKind) (settings : Settings) :
    Except FormError ShownForm :=
  match r.form? kind with
  | some f => .ok (f.render settings)
  | none => .error (.noForm kind)

/-- Whether a kind has a form. -/
def contains (r : FormRegistry) (kind : ToolKind) : Bool :=
  (r.form? kind).isSome

/-- The kinds that have a form, in the order of the catalog. -/
def kinds (r : FormRegistry) : List ToolKind :=
  ToolKind.all.filter r.contains

end FormRegistry

/-- The name of a kind in the description of a registry. -/
def ToolKind.title : ToolKind → String
  | .rag => "Rag"
  | .webSearch => "WebSearch"
  | .customCode => "CustomCode"
  | .agent => "Agent"
  | .apiCall => "ApiCall"
  | .llmTool => "LlmTool"
  | .mcpServer => "McpServer"
  | .sap => "Sap"
  | .databricks => "Databricks"
  | .workday => "Workday"
  | .salesforce => "Salesforce"

/-- A registry described by its kinds. -/
def FormRegistry.describe (r : FormRegistry) : String :=
  "RendererRegistry \x7b tool_types: ["
    ++ String.intercalate ", " (r.kinds.map ToolKind.title) ++ "] \x7d"

end ToolAuthoring
