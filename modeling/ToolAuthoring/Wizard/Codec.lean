import ToolAuthoring.Form.Codec
import ToolAuthoring.Wizard.Page

/-!
# The wizard as JSON

How pages, panels, buttons and the step bar are written. They are never read back. A panel and the
body of a page begin with a member that tells which one it is.
-/

namespace ToolAuthoring

def SettingsPanel.json : SettingsPanel → Json
  | .form shown => .record [("panel", .text "form"), ("form", shown.json)]
  | .codeEditor code language =>
    .record [("panel", .text "code_editor"), ("code", .text code), ("language", .text language)]
  | .unsupported title message =>
    .record [("panel", .text "unsupported"), ("title", .text title), ("message", .text message)]
  | .empty => .record [("panel", .text "empty")]

def PreviewPanel.json : PreviewPanel → Json
  | .codeEditor code language =>
    .record [("panel", .text "code_editor"), ("code", .text code), ("language", .text language)]
  | .generated code => .record [("panel", .text "generated"), ("code", .text code)]
  | .pending label enabled =>
    .record [("panel", .text "pending"), ("label", .text label), ("enabled", .bool enabled)]

def ReviewSummary.json (s : ReviewSummary) : Json :=
  .record [("tool_type", .text s.kindName), ("name", .text s.name),
    ("description", .text s.description), ("status", .text s.status),
    ("code_excerpt", .optionalText s.codeExcerpt)]

def PageBody.json : PageBody → Json
  | .kindPicker groups selected locked =>
    .record [("kind", .text "type_selection"), ("groups", Catalog.json groups),
      ("selected", .optionalText (selected.map ToolKind.name)), ("locked", .bool locked)]
  | .basics name description active =>
    .record [("kind", .text "basic_info"), ("name", .text name),
      ("description", .text description), ("is_active", .bool active)]
  | .settings panel => .record [("kind", .text "configuration"), ("panel", panel.json)]
  | .preview panel => .record [("kind", .text "preview"), ("panel", panel.json)]
  | .review summary => .record [("kind", .text "review"), ("summary", summary.json)]

def Page.json (p : Page) : Json :=
  .record [("step", p.step.json), ("error", .optionalText p.message), ("body", p.body.json)]

def Button.json (b : Button) : Json :=
  .record [("label", .text b.label), ("enabled", .bool b.enabled)]

/-- A button, or null where there is none. -/
def Button.optionalJson : Option Button → Json
  | some b => b.json
  | none => .null

def Controls.json (c : Controls) : Json :=
  .record [("cancel", c.cancel.json), ("previous", Button.optionalJson c.previous),
    ("next", Button.optionalJson c.next), ("submit", Button.optionalJson c.submit)]

def StepMarker.json (m : StepMarker) : Json :=
  .record [("step", m.step.json), ("number", .natural m.number.toUInt64), ("label", .text m.label),
    ("description", .text m.description), ("state", .text m.state.name),
    ("clickable", .bool m.clickable)]

end ToolAuthoring
