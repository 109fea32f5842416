import ToolAuthoring.Sheet.CustomRequest

/-!
# Databricks

The operations and the connection settings of the Databricks integration.
-/

namespace ToolAuthoring.Databricks

open CustomRequest

def sqlQuery : FormField :=
  FormField.textArea "sqlQuery" "SQL Query" |>.require
    |>.hint "SELECT * FROM catalog.schema.table WHERE condition = 'value'"

def catalog : FormField :=
  FormField.text "catalog" "Catalog" |>.hint "main"

def schema : FormField :=
  FormField.text "schema" "Schema" |>.hint "default"

def notebookPath : FormField :=
  FormField.text "notebookPath" "Notebook Path" |>.require
    |>.hint "/Users/username/notebook_name or /Shared/notebook_name"

def tableName : FormField :=
  FormField.text "tableName" "Table Name" |>.require |>.hint "table_name"

def query : FormField :=
  FormField.textArea "query" "Query (WHERE clause or full query)"
    |>.hint "WHERE column = 'value' OR SELECT * FROM table WHERE..."

def tableDefinition : FormField :=
  FormField.json "tableDefinition" "Table Definition (JSON)" |>.require
    |>.hint "\x7b\"columns\": [\x7b\"name\": \"id\", \"type\": \"bigint\"\x7d, \x7b\"name\": \"name\", \"type\": \"string\"\x7d]\x7d"
    |>.explain "JSON object defining table columns and their types."

def jobId : FormField :=
  FormField.text "jobId" "Job ID" |>.require |>.hint "123456789012345"

def parameters : FormField :=
  FormField.json "parameters" "Parameters (JSON)"
    |>.hint "\x7b\"param1\": \"value1\", \"param2\": \"value2\"\x7d"

def customEndpoint : FormField :=
  FormField.text "customEndpoint" "Custom Endpoint" |>.require |>.hint "/api/2.0/..."

/-- What a node can do with Databricks. -/
def operations : OperationSheet where
  integration := .databricks
  title := "Databricks Operation"
  operations := [
    ⟨"execute_sql", "Execute SQL Query", [sqlQuery, catalog, schema]⟩,
    ⟨"run_notebook", "Run Notebook", [notebookPath, parameters]⟩,
    ⟨"query_table", "Query Table", [tableName, catalog.require, schema.require, query]⟩,
    ⟨"create_table", "Create Table", [tableName, catalog.require, schema.require, tableDefinition]⟩,
    ⟨"run_job", "Run Databricks Job", [jobId, parameters]⟩,
    ⟨"custom", "Custom Operation", [customEndpoint, customMethod, customBody]⟩]

/-- How a tool reaches Databricks. -/
def connection : ConnectionSheet where
  integration := .databricks
  title := "Databricks Configuration"
  banner := "Databricks Integration"
  sections := [
    ⟨"Connection Settings", [
      .always (FormField.url "workspace_url" "Workspace URL" |>.require
        |>.hint "https://your-workspace.cloud.databricks.com"),
      .always (FormField.text "cluster_id" "Cluster ID" |>.hint "1234-567890-abc123"),
      .always (FormField.text "sql_warehouse_id" "SQL Warehouse ID"
        |>.hint "Optional: SQL Warehouse ID")]⟩,
    ⟨"Authentication", [
      .always (FormField.select "auth_type" "Auth Type"
        [⟨"token", "Personal Access Token"⟩, ⟨"oauth", "OAuth 2.0"⟩,
          ⟨"azure_client_secret", "Azure Client Secret"⟩, ⟨"aws_iam", "AWS IAM"⟩] "token"),
      .gated (FormField.password "access_token" "Personal Access Token" |>.require
        |>.hint "dapi...") "auth_type" ["token"],
      .gated (FormField.text "client_id" "Client ID" |>.hint "OAuth Client ID") "auth_type"
        ["oauth"],
      .gated (FormField.password "client_secret" "Client Secret" |>.hint "OAuth Client Secret")
        "auth_type" ["oauth"],
      .gated (FormField.text "azure_client_id" "Azure Client ID" |>.hint "Azure Client ID")
        "auth_type" ["azure_client_secret"],
      .gated (FormField.password "azure_client_secret" "Azure Client Secret"
        |>.hint "Azure Client Secret") "auth_type" ["azure_client_secret"],
      .gated (FormField.text "azure_tenant_id" "Azure Tenant ID" |>.hint "Azure Tenant ID")
        "auth_type" ["azure_client_secret"]]⟩,
    ⟨"API Settings", [
      .always (FormField.select "api_version" "API Version"
        [⟨"2.0", "2.0"⟩, ⟨"2.1", "2.1"⟩] "2.0"),
      .always (FormField.text "default_catalog" "Default Catalog" |>.hint "main"),
      .always (FormField.text "default_schema" "Default Schema" |>.hint "default")]⟩]

end ToolAuthoring.Databricks
