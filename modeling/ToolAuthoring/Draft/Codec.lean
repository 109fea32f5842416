import ToolAuthoring.Draft.Edit
import ToolAuthoring.Json.Decode

/-!
# Drafts as JSON

How drafts, edits and control events are written and decoded. A draft without a kind is written with
the empty text as its type; members that a draft does not know are passed over.
-/

namespace ToolAuthoring

/-- A domain reader as a reader with a reason. -/
def withReason {α : Type} (parse : String → Except DraftError α) (s : String) : Except String α :=
  (parse s).mapError DraftError.message

namespace ToolKind

/-- A kind is written as its name. -/
def json (t : ToolKind) : Json := .text t.name

def decode : Decoder ToolKind :=
  .named (listed.map name) ofName?

end ToolKind

namespace Integration

/-- An integration is written as its name. -/
def json (i : Integration) : Json := .text i.name

/-- The integration that is the key of a map. -/
def decodeKey (s : String) : Except DecodeError Integration :=
  Decoder.ofName (all.map name) ofName? s

def decode : Decoder Integration :=
  .named (all.map name) ofName?

end Integration

namespace ControlKind

/-- A control kind is written as its name. -/
def json (k : ControlKind) : Json := .text k.name

def decode : Decoder ControlKind :=
  .named (all.map name) ofName?

end ControlKind

namespace Setting

/-- A setting is written as its text or truth value. -/
def json : Setting → Json
  | .text s => .text s
  | .flag b => .bool b

/-- A text or a truth value; `title` names the type in the message for anything else. -/
def decodeAs (title : String) : Decoder Setting := fun _ d => do
  let v ← ofSyntax d.value
  match v.json with
  | .text s => return .text s
  | .bool b => return .flag b
  | _ => throw (.noAlternative title)

/-- A setting of a draft. -/
def decode : Decoder Setting := decodeAs "ConfigValue"

/-- The new value of an edit. -/
def decodeNew : Decoder Setting := decodeAs "FieldValue"

end Setting

namespace Settings

/-- Settings are written in the order of their keys. -/
def json (m : Settings) : Json :=
  .record (m.entries.map fun e => (e.1, e.2.json))

def decode : Decoder Settings :=
  .map .ok Setting.decode

end Settings

namespace DraftField

/-- A field is written as its dotted name. -/
def json (f : DraftField) : Json := .text f.dotted

def decode : Decoder DraftField :=
  .parsed (withReason ofDotted)

end DraftField

namespace DraftEdit

def json (e : DraftEdit) : Json :=
  .record [("path", e.field.json), ("value", e.value.json)]

/-- A member of an edit. -/
inductive Part where
  | field (f : DraftField)
  | value (v : Setting)

/-- Put a member into an edit. -/
def put (e : DraftEdit) : Part → DraftEdit
  | .field f => { e with field := f }
  | .value v => { e with value := v }

def layout : Layout Part where
  title := "DraftMutation"
  slots := [
    ⟨"path", true, fun o d => .field <$> DraftField.decode o d⟩,
    ⟨"value", true, fun o d => .value <$> Setting.decodeNew o d⟩]
  others := none

def decode : Decoder DraftEdit :=
  layout.decode ⟨.name, .text ""⟩ put

end DraftEdit

namespace ControlEvent

def json (e : ControlEvent) : Json :=
  .record [("name", .text e.name), ("kind", e.control.json), ("value", .text e.value),
    ("checked", .bool e.checked)]

/-- A member of a control event. -/
inductive Part where
  | name (s : String)
  | control (k : ControlKind)
  | value (s : String)
  | checked (b : Bool)

/-- Put a member into a control event. -/
def put (e : ControlEvent) : Part → ControlEvent
  | .name s => { e with name := s }
  | .control k => { e with control := k }
  | .value s => { e with value := s }
  | .checked b => { e with checked := b }

def layout : Layout Part where
  title := "InputEvent"
  slots := [
    ⟨"name", true, fun o d => .name <$> Decoder.text o d⟩,
    ⟨"kind", true, fun o d => .control <$> ControlKind.decode o d⟩,
    ⟨"value", false, fun o d => .value <$> Decoder.text o d⟩,
    ⟨"checked", false, fun o d => .checked <$> Decoder.flag o d⟩]
  others := none

def decode : Decoder ControlEvent :=
  layout.decode ⟨"", .text, "", false⟩ put

end ControlEvent

namespace Draft

/-- A kind that may not have been picked: its name, or the empty text. -/
def kindJson : Option ToolKind → Json
  | some t => t.json
  | none => .text ""

/-- A kind that may not have been picked: null and the empty text stand for none. -/
def decodeKind : Decoder (Option ToolKind) := fun o d => do
  let s ← Decoder.optional Decoder.text o d
  match s with
  | none => return none
  | some s =>
    if s = "" then return none
    else
      match withReason ToolKind.ofName s with
      | .ok t => return some t
      | .error reason => throw (.refused reason)

def json (d : Draft) : Json :=
  .record [("name", .text d.name), ("description", .text d.description), ("type", kindJson d.kind),
    ("config", d.settings.json), ("code", .text d.code), ("is_active", .bool d.active),
    ("parameters", .list (d.parameters.map JsonValue.json))]

/-- A member of a draft. -/
inductive Part where
  | name (s : String)
  | description (s : String)
  | kind (t : Option ToolKind)
  | settings (m : Settings)
  | code (s : String)
  | active (b : Bool)
  | parameters (vs : List JsonValue)

/-- Put a member into a draft. -/
def put (d : Draft) : Part → Draft
  | .name s => { d with name := s }
  | .description s => { d with description := s }
  | .kind t => { d with kind := t }
  | .settings m => { d with settings := m }
  | .code s => { d with code := s }
  | .active b => { d with active := b }
  | .parameters vs => { d with parameters := vs }

def layout : Layout Part where
  title := "ToolDraft"
  slots := [
    ⟨"name", false, fun o d => .name <$> Decoder.text o d⟩,
    ⟨"description", false, fun o d => .description <$> Decoder.text o d⟩,
    ⟨"type", false, fun o d => .kind <$> decodeKind o d⟩,
    ⟨"config", false, fun o d => .settings <$> Settings.decode o d⟩,
    ⟨"code", false, fun o d => .code <$> Decoder.text o d⟩,
    ⟨"is_active", false, fun o d => .active <$> Decoder.flag o d⟩,
    ⟨"parameters", false, fun o d => .parameters <$> Decoder.values o d⟩]
  others := none

def decode : Decoder Draft :=
  layout.decode empty put

end Draft

end ToolAuthoring
