import ToolAuthoring.Form.Catalog
import ToolAuthoring.Form.Registry
import ToolAuthoring.Text.Excerpt
import ToolAuthoring.Wizard.Chrome

/-!
# Pages

What fills each step. The wizard chooses by step and kind of tool and never looks into the settings
that a form shows.
-/

namespace ToolAuthoring

/-- What fills the settings step. -/
inductive SettingsPanel where
  | form (form : ShownForm)
  | codeEditor (code language : String)
  | unsupported (title message : String)
  | empty
deriving DecidableEq, Repr

/-- The heading for a kind that cannot be configured yet. -/
def ToolKind.unsupportedTitle? : ToolKind → Option String
  | .mcpServer => some "MCP Server Integration Tool"
  | .llmTool => some "LLM Tool Integration Tool"
  | .agent => some "AI Agent Tool"
  | _ => none

/-- The notice for a kind that cannot be configured yet. -/
def unsupportedMessage : String :=
  "This feature is not yet supported. Check back in a future update!"

/-- The panel for a draft: the editor for the self-authored kind, a notice for a kind that cannot be
configured yet, or else the registered form, if there is one. -/
def SettingsPanel.ofDraft (d : Draft) (config : WizardConfig) (registry : FormRegistry) :
    SettingsPanel :=
  match d.kind with
  | none => .empty
  | some kind =>
    if config.isSelfAuthored (some kind) then .codeEditor d.code config.language
    else
      match kind.unsupportedTitle? with
      | some title => .unsupported title unsupportedMessage
      | none =>
        match registry.form? kind with
        | some f => .form (f.render d.settings)
        | none => .empty

/-- What fills the preview step. -/
inductive PreviewPanel where
  | codeEditor (code language : String)
  | generated (code : String)
  | pending (label : String) (enabled : Bool)
deriving DecidableEq, Repr

/-- The preview step: the editor for the self-authored kind, the preview if there is one, or else a
button to generate it. -/
def Snapshot.previewPanel (v : Snapshot) (busy : Busy) (d : Draft) (preview : Option String) :
    PreviewPanel :=
  if v.config.isSelfAuthored d.kind then .codeEditor d.code v.config.language
  else
    let pending : PreviewPanel :=
      .pending (if busy.generating then "Generating..." else "Generate Preview Code")
        (!busy.generating)
    match preview with
    | some code => if hasPreview (some code) then .generated code else pending
    | none => pending

/-- The summary of a draft before it is submitted. -/
structure ReviewSummary where
  kindName : String
  name : String
  description : String
  status : String
  codeExcerpt : Option String
deriving DecidableEq, Repr

/-- Summarize a draft. Generated code is shown in part, code written by hand is not. -/
def ReviewSummary.ofDraft (d : Draft) (preview : Option String) (config : WizardConfig) :
    ReviewSummary where
  kindName := (d.kind.map ToolKind.name).getD ""
  name := d.name
  description := if d.description = "" then "No description" else d.description
  status := if d.active then "Active" else "Inactive"
  codeExcerpt :=
    match preview with
    | some code =>
      if hasPreview (some code) && !config.isSelfAuthored d.kind then
        some (excerpt code config.excerptLength.toNat)
      else none
    | none => none

/-- What fills a step. -/
inductive PageBody where
  | kindPicker (groups : List (KindGroup × List KindOption)) (selected : Option ToolKind)
    (locked : Bool)
  | basics (name description : String) (active : Bool)
  | settings (panel : SettingsPanel)
  | preview (panel : PreviewPanel)
  | review (summary : ReviewSummary)
deriving DecidableEq, Repr

/-- A step with its message and what fills it. -/
structure Page where
  step : Step
  message : Option String
  body : PageBody
deriving DecidableEq, Repr

namespace Wizard

/-- What fills the current step. -/
def body (w : Wizard) (d : Draft) (preview : Option String) (registry : FormRegistry) : PageBody :=
  match w.step with
  | .kind => .kindPicker Catalog.grouped d.kind w.editing
  | .basics => .basics d.name d.description d.active
  | .settings => .settings (.ofDraft d w.config registry)
  | .preview => .preview (w.snapshot.previewPanel w.busy d preview)
  | .review => .review (.ofDraft d preview w.config)

/-- The page of the current step. -/
def page (w : Wizard) (d : Draft) (preview : Option String) (registry : FormRegistry) : Page :=
  ⟨w.step, w.messages.get? w.step, w.body d preview registry⟩

end Wizard

end ToolAuthoring
