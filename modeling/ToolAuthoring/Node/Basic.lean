import ToolAuthoring.Draft.Kind
import ToolAuthoring.Json.Basic

/-!
# Flow nodes

A node of a flow canvas. Only what the operation forms touch has a type of its own; all other data
of a node rides along.
-/

namespace ToolAuthoring

/-- A place on the canvas. -/
structure Placement where
  x : Double
  y : Double
deriving DecidableEq

/-- The tool attached to a node. Its type is a stored name, which need not be known. -/
structure AttachedTool where
  id : String
  name : String
  description : String
  kindName : Option String
deriving DecidableEq, Repr

/-- The staged operation settings of one integration, by field. -/
abbrev StagedValues := KeyMap String String

/-- The data of a node. -/
structure NodePayload where
  type : String
  label : String
  description : Option String
  tool : Option AttachedTool
  staged : KeyMap Integration StagedValues
  extra : KeyMap String JsonValue

/-- A node of the canvas. -/
structure FlowNode where
  id : String
  type : String
  payload : NodePayload
  place : Placement

namespace FlowNode

/-- The staged settings of an integration, if there are any. -/
def stagedFor (n : FlowNode) (i : Integration) : Option StagedValues :=
  n.payload.staged.get? i

/-- The value staged for a field of an integration. -/
def stagedValue? (n : FlowNode) (i : Integration) (key : String) : Option String :=
  (n.stagedFor i).bind fun m => m.get? key

/-- The integration of the attached tool, if it has one. -/
def integration? (n : FlowNode) : Option Integration := do
  let tool ← n.payload.tool
  let name ← tool.kindName
  Integration.ofName? name

/-- The node with one more setting staged; all else is as before. -/
def stage (n : FlowNode) (i : Integration) (key value : String) : FlowNode :=
  let values := ((n.stagedFor i).getD .empty).insert key value
  { n with payload := { n.payload with staged := n.payload.staged.insert i values } }

end FlowNode

end ToolAuthoring
