import ToolAuthoring.Sheet.Connection
import ToolAuthoring.Sheet.Operation

/-!
# Salesforce

The operations and the connection settings of the Salesforce integration.
-/

namespace ToolAuthoring.Salesforce

def object : FormField :=
  FormField.text "object" "Salesforce Object" |>.require
    |>.hint "Account, Contact, Lead, Opportunity, etc."

def soqlQuery : FormField :=
  FormField.textArea "soqlQuery" "SOQL Query" |>.require
    |>.hint "SELECT Id, Name, Email FROM Contact WHERE AccountId = '\x7baccount_id\x7d'"
    |>.explain "Use SOQL syntax. You can use placeholders like \x7baccount_id\x7d that will be replaced at runtime."

def fields : FormField :=
  FormField.json "fields" "Field Values (JSON)" |>.require
    |>.hint "\x7b\"Name\": \"John Doe\", \"Email\": \"john@example.com\", \"Phone\": \"555-1234\"\x7d"
    |>.explain "JSON object with field names and values. For update, include the record ID."

def recordId : FormField :=
  FormField.text "recordId" "Record ID" |>.require |>.hint "003000000000000AAA"

def searchQuery : FormField :=
  FormField.text "searchQuery" "Search Query" |>.require
    |>.hint "FIND \x7bsearch_term\x7d IN ALL FIELDS RETURNING Account(Id, Name), Contact(Id, Name)"

def apexClass : FormField :=
  FormField.text "apexClass" "Apex Class Name" |>.require |>.hint "MyApexClass"

def apexMethod : FormField :=
  FormField.text "apexMethod" "Apex Method Name" |>.require |>.hint "myMethod"

def parameters : FormField :=
  FormField.json "parameters" "Parameters (JSON)"
    |>.hint "\x7b\"param1\": \"value1\", \"param2\": \"value2\"\x7d"

/-- What a node can do with Salesforce. -/
def operations : OperationSheet where
  integration := .salesforce
  title := "Salesforce Operation"
  operations := [
    ⟨"query", "Query Records (SOQL)", [object, soqlQuery]⟩,
    ⟨"create", "Create Record", [object, fields]⟩,
    ⟨"update", "Update Record", [object, fields, recordId]⟩,
    ⟨"delete", "Delete Record", [object, recordId]⟩,
    ⟨"search", "Search Records", [object, searchQuery]⟩,
    ⟨"get_by_id", "Get Record by ID", [object, recordId]⟩,
    ⟨"apex", "Call Apex Method", [apexClass, apexMethod, parameters]⟩]

def username : FormField :=
  FormField.text "username" "Username" |>.require |>.hint "Salesforce Username"

/-- How a tool reaches Salesforce. -/
def connection : ConnectionSheet where
  integration := .salesforce
  title := "Salesforce Configuration"
  banner := "Salesforce Integration"
  sections := [
    ⟨"Connection Settings", [
      .always (FormField.url "instance_url" "Instance URL" |>.require
        |>.hint "https://yourinstance.salesforce.com"),
      .always (FormField.select "environment" "Environment"
        [⟨"production", "Production"⟩, ⟨"sandbox", "Sandbox"⟩,
          ⟨"custom", "Custom Domain"⟩] "production"),
      .always (FormField.select "api_version" "API Version"
        [⟨"v59.0", "v59.0"⟩, ⟨"v58.0", "v58.0"⟩, ⟨"v57.0", "v57.0"⟩, ⟨"v56.0", "v56.0"⟩] "v59.0")]⟩,
    ⟨"Authentication", [
      .always (FormField.select "auth_type" "Auth Type"
        [⟨"oauth", "OAuth 2.0 (Username/Password)"⟩, ⟨"oauth_jwt", "OAuth 2.0 (JWT Bearer)"⟩,
          ⟨"session_id", "Session ID"⟩, ⟨"access_token", "Access Token"⟩] "oauth"),
      .gated username "auth_type" ["oauth"],
      .gated (FormField.password "password" "Password" |>.require |>.hint "Salesforce Password")
        "auth_type" ["oauth"],
      .gated (FormField.password "security_token" "Security Token"
        |>.hint "Security Token (if required)") "auth_type" ["oauth"],
      .gated (FormField.text "consumer_key" "Consumer Key (Client ID)" |>.require
        |>.hint "Connected App Consumer Key") "auth_type" ["oauth_jwt"],
      .gated (FormField.password "consumer_secret" "Consumer Secret (Client Secret)" |>.require
        |>.hint "Connected App Consumer Secret") "auth_type" ["oauth_jwt"],
      .gated username "auth_type" ["oauth_jwt"],
      .gated (FormField.password "session_id" "Session ID" |>.require
        |>.hint "Salesforce Session ID") "auth_type" ["session_id"],
      .gated (FormField.password "access_token" "Access Token" |>.require
        |>.hint "Salesforce Access Token") "auth_type" ["access_token"]]⟩,
    ⟨"API Settings", [
      .always (FormField.select "api_type" "API Type"
        [⟨"rest", "REST API"⟩, ⟨"soap", "SOAP API"⟩, ⟨"bulk", "Bulk API"⟩,
          ⟨"streaming", "Streaming API"⟩] "rest"),
      .always (FormField.text "default_object" "Default Object"
        |>.hint "Account, Contact, Lead, etc.")]⟩]

end ToolAuthoring.Salesforce
