import ToolAuthoring.Sheet.CustomRequest

/-!
# Workday

The operations and the connection settings of the Workday integration.
-/

namespace ToolAuthoring.Workday

open CustomRequest

def reportName : FormField :=
  FormField.text "reportName" "Report Name" |>.require
    |>.hint "Report name (e.g., Worker_Report, Payroll_Report)"

def reportData : FormField :=
  FormField.json "reportData" "Report Data (JSON)" |>.require
    |>.hint "\x7b\"field1\": \"value1\", \"field2\": \"value2\"\x7d"

def serviceName : FormField :=
  FormField.text "serviceName" "Service Name" |>.require
    |>.hint "Web service name (e.g., Human_Resources, Financial_Management)"

def documentType : FormField :=
  FormField.text "documentType" "Document Type" |>.require
    |>.hint "Document type (e.g., Worker_Document, Payroll_Document)"

def documentId : FormField :=
  FormField.text "documentId" "Document ID" |>.require |>.hint "Document ID"

def documentData : FormField :=
  FormField.json "documentData" "Document Data (JSON)" |>.require
    |>.hint "\x7b\"field1\": \"value1\", \"field2\": \"value2\"\x7d"

def customEndpoint : FormField :=
  FormField.text "customEndpoint" "Custom Endpoint" |>.require
    |>.hint "/ccx/service/customreport2/tenant/..."

def parameters : FormField :=
  FormField.json "parameters" "Parameters (JSON)"
    |>.hint "\x7b\"param1\": \"value1\", \"param2\": \"value2\"\x7d"
    |>.explain "JSON object with parameter names and values for the report or web service."

/-- What a node can do with Workday. -/
def operations : OperationSheet where
  integration := .workday
  title := "Workday Operation"
  operations := [
    ⟨"get_report", "Get Report", [reportName, parameters]⟩,
    ⟨"put_report", "Put/Update Report", [reportName, reportData]⟩,
    ⟨"get_document", "Get Document", [documentType, documentId]⟩,
    ⟨"put_document", "Put/Update Document", [documentType, documentData]⟩,
    ⟨"web_service", "Call Web Service", [serviceName, parameters]⟩,
    ⟨"custom", "Custom Operation", [customEndpoint, customMethod, customBody]⟩]

/-- How a tool reaches Workday. -/
def connection : ConnectionSheet where
  integration := .workday
  title := "Workday Configuration"
  banner := "Workday Integration"
  sections := [
    ⟨"Connection Settings", [
      .always (FormField.url "tenant_url" "Workday Tenant URL" |>.require
        |>.hint "https://wd2-impl.workday.com"),
      .always (FormField.text "tenant_name" "Tenant Name" |>.hint "Your Tenant Name"),
      .always (FormField.select "environment" "Environment"
        [⟨"Implementation", "Implementation"⟩, ⟨"Sandbox", "Sandbox"⟩,
          ⟨"Production", "Production"⟩] "Implementation")]⟩,
    ⟨"Authentication", [
      .always (FormField.select "auth_type" "Auth Type"
        [⟨"oauth", "OAuth 2.0"⟩, ⟨"basic", "Basic Authentication"⟩,
          ⟨"certificate", "Certificate"⟩] "oauth"),
      .gated (FormField.text "client_id" "Client ID" |>.require |>.hint "OAuth Client ID")
        "auth_type" ["oauth"],
      .gated (FormField.password "client_secret" "Client Secret" |>.require
        |>.hint "OAuth Client Secret") "auth_type" ["oauth"],
      .gated (FormField.password "refresh_token" "Refresh Token"
        |>.hint "OAuth Refresh Token (optional)") "auth_type" ["oauth"],
      .gated (FormField.text "username" "Username" |>.require |>.hint "Workday Username")
        "auth_type" ["basic"],
      .gated (FormField.password "password" "Password" |>.require |>.hint "Workday Password")
        "auth_type" ["basic"]]⟩,
    ⟨"API Settings", [
      .always (FormField.select "api_version" "API Version"
        [⟨"v40.0", "v40.0"⟩, ⟨"v39.0", "v39.0"⟩, ⟨"v38.0", "v38.0"⟩, ⟨"v37.0", "v37.0"⟩] "v40.0"),
      .always (FormField.text "service_name" "Service Name"
        |>.hint "Human_Resources, Financial_Management, etc."),
      .always (FormField.select "report_format" "Report Format"
        [⟨"json", "JSON"⟩, ⟨"xml", "XML"⟩, ⟨"csv", "CSV"⟩] "json")]⟩]

end ToolAuthoring.Workday
