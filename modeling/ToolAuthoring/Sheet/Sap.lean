import ToolAuthoring.Sheet.CustomRequest

/-!
# SAP

The operations and the connection settings of the SAP integration.
-/

namespace ToolAuthoring.Sap

open CustomRequest

def functionName : FormField :=
  FormField.text "functionName" "Function Name" |>.require
    |>.hint "RFC_FUNCTION_NAME or BAPI_FUNCTION_NAME"

def odataEntity : FormField :=
  FormField.text "odataEntity" "OData Entity" |>.require
    |>.hint "EntitySetName (e.g., SalesOrderSet, MaterialSet)"

def odataQuery : FormField :=
  FormField.textArea "odataQuery" "OData Query" |>.require
    |>.hint "$filter=Field eq 'value'&$select=Field1,Field2&$top=10"
    |>.explain "OData query parameters ($filter, $select, $orderby, $top, etc.)"

def recordId : FormField :=
  FormField.text "recordId" "Record ID / Key" |>.require |>.hint "Record key or ID"

def idocType : FormField :=
  FormField.text "idocType" "IDoc Type" |>.require |>.hint "IDoc type (e.g., ORDERS05, INVOIC02)"

def idocData : FormField :=
  FormField.textArea "idocData" "IDoc Data (JSON/XML)" |>.require
    |>.hint "IDoc data in JSON or XML format"

def customEndpoint : FormField :=
  FormField.text "customEndpoint" "Custom Endpoint" |>.require
    |>.hint "/sap/opu/odata/sap/... or custom path"

def parameters : FormField :=
  FormField.json "parameters" "Parameters (JSON)" |>.require
    |>.hint "\x7b\"PARAM1\": \"value1\", \"PARAM2\": \"value2\"\x7d"
    |>.explain "JSON object with parameter names and values. For OData create/update, this represents the entity fields."

/-- What a node can do with SAP. -/
def operations : OperationSheet where
  integration := .sap
  title := "SAP Operation"
  operations := [
    ⟨"rfc", "RFC Function Call", [functionName, parameters]⟩,
    ⟨"odata_query", "OData Query", [odataEntity, odataQuery]⟩,
    ⟨"odata_create", "OData Create", [odataEntity, parameters]⟩,
    ⟨"odata_update", "OData Update", [odataEntity, recordId, parameters]⟩,
    ⟨"odata_delete", "OData Delete", [odataEntity, recordId]⟩,
    ⟨"bapi", "BAPI Function Call", [functionName, parameters]⟩,
    ⟨"idoc", "Process IDoc", [idocType, idocData]⟩,
    ⟨"custom", "Custom Operation", [customEndpoint, customMethod, customBody]⟩]

/-- How a tool reaches SAP. -/
def connection : ConnectionSheet where
  integration := .sap
  title := "SAP Configuration"
  banner := "SAP Integration"
  sections := [
    ⟨"Connection Settings", [
      .always (FormField.url "system_url" "SAP System URL" |>.require
        |>.hint "https://your-sap-system.com"),
      .always (FormField.text "system_number" "System Number" |>.hint "00"),
      .always (FormField.text "client" "Client" |>.hint "100"),
      .always (FormField.text "application_server" "Application Server"
        |>.hint "sap-server.example.com")]⟩,
    ⟨"Authentication", [
      .always (FormField.select "auth_type" "Auth Type"
        [⟨"basic", "Basic Authentication"⟩, ⟨"sso", "Single Sign-On (SSO)"⟩,
          ⟨"certificate", "Certificate"⟩, ⟨"oauth", "OAuth 2.0"⟩] "basic"),
      .secret (FormField.text "username" "Username" |>.hint "SAP Username"),
      .secret (FormField.password "password" "Password" |>.hint "SAP Password"),
      .gated (FormField.url "oauth_token_endpoint" "OAuth Token Endpoint"
        |>.hint "https://your-sap-system.com/oauth/token") "auth_type" ["oauth"]]⟩,
    ⟨"API Settings", [
      .always (FormField.text "rfc_destination" "RFC Destination" |>.hint "RFC_DEST"),
      .always (FormField.select "api_version" "API Version"
        [⟨"v1", "v1"⟩, ⟨"v2", "v2"⟩, ⟨"odata_v2", "OData v2"⟩, ⟨"odata_v4", "OData v4"⟩] "v1")]⟩]

end ToolAuthoring.Sap
