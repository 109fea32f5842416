import ToolAuthoring.Node.Basic
import ToolAuthoring.Draft.Codec

/-!
# Nodes as JSON

How nodes are written and decoded. Members of a node's data that have no type of their own are kept
and written behind the others; members of a node or of its tool that are not known are passed over.
-/

namespace ToolAuthoring

namespace Placement

/-- The origin of the canvas. -/
def origin : Placement := ⟨.zero, .zero⟩

/-- A place is written with two doubles, also where they are whole. -/
def json (p : Placement) : Json :=
  .record [("x", .number (.float p.x)), ("y", .number (.float p.y))]

/-- A coordinate. -/
inductive Part where
  | x (d : Double)
  | y (d : Double)

/-- Put a coordinate into a place. -/
def put (p : Placement) : Part → Placement
  | .x d => { p with x := d }
  | .y d => { p with y := d }

def layout : Layout Part where
  title := "Position"
  slots := [
    ⟨"x", true, fun o d => .x <$> Decoder.double o d⟩,
    ⟨"y", true, fun o d => .y <$> Decoder.double o d⟩]
  others := none

def decode : Decoder Placement :=
  layout.decode origin put

end Placement

namespace AttachedTool

def json (t : AttachedTool) : Json :=
  .record ([("id", .text t.id), ("name", .text t.name), ("description", .text t.description)]
    ++ t.kindName.toList.map fun s => ("type", .text s))

/-- A member of an attached tool. -/
inductive Part where
  | id (s : String)
  | name (s : String)
  | description (s : String)
  | kindName (s : Option String)

/-- Put a member into an attached tool. -/
def put (t : AttachedTool) : Part → AttachedTool
  | .id s => { t with id := s }
  | .name s => { t with name := s }
  | .description s => { t with description := s }
  | .kindName s => { t with kindName := s }

def layout : Layout Part where
  title := "ToolRef"
  slots := [
    ⟨"id", true, fun o d => .id <$> Decoder.text o d⟩,
    ⟨"name", true, fun o d => .name <$> Decoder.text o d⟩,
    ⟨"description", false, fun o d => .description <$> Decoder.text o d⟩,
    ⟨"type", false, fun o d => .kindName <$> Decoder.optional Decoder.text o d⟩]
  others := none

def decode : Decoder AttachedTool :=
  layout.decode ⟨"", "", "", none⟩ put

end AttachedTool

namespace NodePayload

/-- The staged settings of all integrations. -/
def stagedJson (m : KeyMap Integration StagedValues) : Json :=
  .record (m.entries.map fun e => (e.1.name, .record (e.2.mapValues .text).entries))

/-- The members of a payload. A description that is absent and staged settings without any
integration are left out. -/
def members (p : NodePayload) : List (String × Json) :=
  [("type", .text p.type), ("label", .text p.label)]
    ++ (p.description.toList.map fun s => ("description", .text s))
    ++ [("tool", match p.tool with | some t => t.json | none => .null)]
    ++ (if p.staged.isEmpty then [] else [("toolOperation", stagedJson p.staged)])
    ++ (p.extra.mapValues JsonValue.json).entries

def json (p : NodePayload) : Json := .record p.members

/-- A member of a payload. -/
inductive Part where
  | type (s : String)
  | label (s : String)
  | description (s : Option String)
  | tool (t : Option AttachedTool)
  | staged (m : KeyMap Integration StagedValues)
  | extra (key : String) (v : JsonValue)

/-- Put a member into a payload. -/
def put (p : NodePayload) : Part → NodePayload
  | .type s => { p with type := s }
  | .label s => { p with label := s }
  | .description s => { p with description := s }
  | .tool t => { p with tool := t }
  | .staged m => { p with staged := m }
  | .extra key v => { p with extra := p.extra.insert key v }

def layout : Layout Part where
  title := "NodeData"
  slots := [
    ⟨"type", true, fun o d => .type <$> Decoder.text o d⟩,
    ⟨"label", false, fun o d => .label <$> Decoder.text o d⟩,
    ⟨"description", false, fun o d => .description <$> Decoder.optional Decoder.text o d⟩,
    ⟨"tool", false, fun o d => .tool <$> Decoder.optional AttachedTool.decode o d⟩,
    ⟨"toolOperation", false, fun o d =>
      .staged <$> Decoder.map Integration.decodeKey (Decoder.map .ok Decoder.text) o d⟩]
  others := some fun key o d => .extra key <$> Decoder.value o d

def decode : Decoder NodePayload :=
  layout.decode ⟨"", "", none, none, .empty, .empty⟩ put

end NodePayload

namespace FlowNode

def json (n : FlowNode) : Json :=
  .record [("id", .text n.id), ("type", .text n.type), ("data", n.payload.json),
    ("position", n.place.json)]

/-- A member of a node. -/
inductive Part where
  | id (s : String)
  | type (s : String)
  | payload (p : NodePayload)
  | place (p : Placement)

/-- Put a member into a node. -/
def put (n : FlowNode) : Part → FlowNode
  | .id s => { n with id := s }
  | .type s => { n with type := s }
  | .payload p => { n with payload := p }
  | .place p => { n with place := p }

def layout : Layout Part where
  title := "CanvasNode"
  slots := [
    ⟨"id", true, fun o d => .id <$> Decoder.text o d⟩,
    ⟨"type", true, fun o d => .type <$> Decoder.text o d⟩,
    ⟨"data", true, fun o d => .payload <$> NodePayload.decode o d⟩,
    ⟨"position", false, fun o d => .place <$> Placement.decode o d⟩]
  others := none

def decode : Decoder FlowNode :=
  layout.decode ⟨"", "", ⟨"", "", none, none, .empty, .empty⟩, .origin⟩ put

end FlowNode

end ToolAuthoring
