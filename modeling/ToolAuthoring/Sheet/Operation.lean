import ToolAuthoring.Draft.Kind
import ToolAuthoring.Sheet.Field

/-!
# Operation sheets

What a node can do with an integration: a closed list of operations, each with the fields that it
needs. Only the fields of the chosen operation are shown.
-/

namespace ToolAuthoring

/-- One operation of an integration and its fields, in display order. -/
structure Operation where
  value : String
  label : String
  fields : List FormField
deriving DecidableEq, Repr

/-- The operations of an integration. -/
structure OperationSheet where
  integration : Integration
  title : String
  operations : List Operation
deriving DecidableEq, Repr

namespace OperationSheet

/-- The key under which the chosen operation is stored. -/
def selectorKey : String := "operation"

/-- The first operation with a value. -/
def operation? (sheet : OperationSheet) (value : String) : Option Operation :=
  sheet.operations.find? fun op => op.value == value

/-- The fields of an operation; an unknown operation has none. -/
def fieldsOf (sheet : OperationSheet) (value : String) : List FormField :=
  match sheet.operation? value with
  | some op => op.fields
  | none => []

/-- The fields of all operations, one after the other. -/
def everyField (sheet : OperationSheet) : List FormField :=
  sheet.operations.flatMap Operation.fields

/-- Add a field unless its key has been seen. -/
def addNew (seen : List FormField) (f : FormField) : List FormField :=
  if seen.any fun g => g.key == f.key then seen else seen ++ [f]

/-- The fields of all operations, of each key the first. -/
def allFields (sheet : OperationSheet) : List FormField :=
  sheet.everyField.foldl addNew []

/-- What is shown under a key while nothing is stored. -/
def defaultFor (sheet : OperationSheet) (key : String) : String :=
  defaultOf sheet.allFields key

/-- The entries of the selector: none yet, and the operations in order. -/
def selectorChoices (sheet : OperationSheet) : List Choice :=
  ⟨"", "Select Operation"⟩ :: sheet.operations.map fun op => ⟨op.value, op.label⟩

end OperationSheet

end ToolAuthoring
