import ToolAuthoring.Sheet.Connection
import ToolAuthoring.Sheet.Operation

/-!
# Custom requests

The fields of an operation that sends a request of its own.
-/

namespace ToolAuthoring.CustomRequest

def customMethod : FormField :=
  FormField.select "customMethod" "HTTP Method"
    [⟨"GET", "GET"⟩, ⟨"POST", "POST"⟩, ⟨"PUT", "PUT"⟩, ⟨"PATCH", "PATCH"⟩, ⟨"DELETE", "DELETE"⟩]
    "GET"
    |>.require

/-- Unlike other JSON, a request body is empty while nothing is stored. -/
def customBody : FormField :=
  FormField.json "customBody" "Request Body (JSON)" |>.showing ""
    |>.hint "\x7b\"field\": \"value\"\x7d"

end ToolAuthoring.CustomRequest
