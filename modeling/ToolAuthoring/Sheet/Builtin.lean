import ToolAuthoring.Sheet.Salesforce
import ToolAuthoring.Sheet.Sap
import ToolAuthoring.Sheet.Workday
import ToolAuthoring.Sheet.Databricks

/-!
# Built-in sheets

The sheets of each integration.
-/

namespace ToolAuthoring

/-- What a node can do with an integration. -/
def Integration.operations : Integration → OperationSheet
  | .salesforce => Salesforce.operations
  | .sap => Sap.operations
  | .workday => Workday.operations
  | .databricks => Databricks.operations

/-- How a tool reaches an integration. -/
def Integration.connection : Integration → ConnectionSheet
  | .salesforce => Salesforce.connection
  | .sap => Sap.connection
  | .workday => Workday.connection
  | .databricks => Databricks.connection

end ToolAuthoring
