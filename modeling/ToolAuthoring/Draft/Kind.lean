/-!
# Tool kinds and integrations

A tool is of one of eleven kinds. Four of them are backed by an enterprise integration, which has
forms of its own.
-/

namespace ToolAuthoring

/-- The kind of a tool. -/
inductive ToolKind where
  | rag
  | webSearch
  | customCode
  | agent
  | apiCall
  | llmTool
  | mcpServer
  | sap
  | databricks
  | workday
  | salesforce
deriving DecidableEq, Repr

/-- An enterprise integration. -/
inductive Integration where
  | salesforce
  | sap
  | workday
  | databricks
deriving DecidableEq, Repr, Ord

namespace Integration

/-- All integrations, in increasing order. -/
def all : List Integration := [.salesforce, .sap, .workday, .databricks]

/-- The name under which an integration is stored. -/
def name : Integration → String
  | .salesforce => "salesforce"
  | .sap => "sap"
  | .workday => "workday"
  | .databricks => "databricks"

/-- The integration with a name. -/
def ofName? (s : String) : Option Integration :=
  all.find? fun i => i.name == s

/-- The kind of tool that an integration backs. -/
def kind : Integration → ToolKind
  | .salesforce => .salesforce
  | .sap => .sap
  | .workday => .workday
  | .databricks => .databricks

instance : Std.TransOrd Integration where
  eq_swap {a b} := by cases a <;> cases b <;> decide
  isLE_trans {a b c} := by cases a <;> cases b <;> cases c <;> decide

instance : Std.LawfulEqOrd Integration where
  compare_self {a} := by cases a <;> decide
  eq_of_compare {a b} := by cases a <;> cases b <;> decide

end Integration

namespace ToolKind

/-- All kinds, in the order of the catalog. -/
def all : List ToolKind :=
  [.sap, .workday, .salesforce, .databricks, .apiCall, .customCode, .rag, .webSearch, .agent,
    .llmTool, .mcpServer]

/-- All kinds, in the order in which messages list them. -/
def listed : List ToolKind :=
  [.rag, .webSearch, .customCode, .agent, .apiCall, .llmTool, .mcpServer, .sap, .databricks,
    .workday, .salesforce]

/-- The name under which a kind is stored. -/
def name : ToolKind → String
  | .rag => "rag"
  | .webSearch => "web_search"
  | .customCode => "custom_code"
  | .agent => "agent"
  | .apiCall => "api_call"
  | .llmTool => "llm_tool"
  | .mcpServer => "mcp_server"
  | .sap => "sap"
  | .databricks => "databricks"
  | .workday => "workday"
  | .salesforce => "salesforce"

/-- The kind with a name. -/
def ofName? (s : String) : Option ToolKind :=
  all.find? fun t => t.name == s

/-- The integration that backs a kind, if one does. -/
def integration? : ToolKind → Option Integration
  | .salesforce => some .salesforce
  | .sap => some .sap
  | .workday => some .workday
  | .databricks => some .databricks
  | _ => none

end ToolKind

end ToolAuthoring
