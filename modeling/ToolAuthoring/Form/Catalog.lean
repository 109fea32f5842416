import ToolAuthoring.Draft.Kind

/-!
# The catalog of tool kinds

The kinds of tools as the picker shows them, in three groups.
-/

namespace ToolAuthoring

/-- A group of the picker. -/
inductive KindGroup where
  | integrations
  | core
  | ai
deriving DecidableEq, Repr

namespace KindGroup

/-- All groups, in display order. -/
def all : List KindGroup := [.integrations, .core, .ai]

/-- The name under which a group is stored. -/
def name : KindGroup → String
  | .integrations => "integrations"
  | .core => "core"
  | .ai => "ai"

/-- The heading of a group. -/
def label : KindGroup → String
  | .integrations => "Integrations"
  | .core => "Core Tools"
  | .ai => "AI Tools"

end KindGroup

namespace ToolKind

/-- The display name of a kind. -/
def label : ToolKind → String
  | .sap => "SAP"
  | .workday => "Workday"
  | .salesforce => "Salesforce"
  | .databricks => "Databricks"
  | .apiCall => "API Call"
  | .customCode => "Custom Code"
  | .rag => "RAG"
  | .webSearch => "Web Search"
  | .agent => "Agent"
  | .llmTool => "LLM Tool"
  | .mcpServer => "MCP Server"

/-- The group of a kind. -/
def group : ToolKind → KindGroup
  | .sap | .workday | .salesforce | .databricks => .integrations
  | .apiCall | .customCode => .core
  | .rag | .webSearch | .agent | .llmTool | .mcpServer => .ai

end ToolKind

/-- An entry of the picker. -/
structure KindOption where
  value : ToolKind
  label : String
  group : KindGroup
deriving DecidableEq, Repr

namespace Catalog

/-- All entries, in the order of the catalog. -/
def options : List KindOption :=
  ToolKind.all.map fun t => ⟨t, t.label, t.group⟩

/-- The entries of each group, groups in display order. -/
def grouped : List (KindGroup × List KindOption) :=
  KindGroup.all.map fun g => (g, options.filter fun o => o.group == g)

end Catalog

end ToolAuthoring
