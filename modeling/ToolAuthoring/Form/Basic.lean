import ToolAuthoring.Form.Shown
import ToolAuthoring.Sheet.Connection
import ToolAuthoring.Sheet.Operation

/-!
# Forms

A form shows settings: it is a name, the kind of tool that it configures, and a function from
settings to what is shown. The sheets of an integration give rise to two of them.
-/

namespace ToolAuthoring

/-- A form for the settings of one kind of tool. -/
structure Form where
  name : String
  kind : ToolKind
  render : Settings → ShownForm

namespace ConnectionSheet

/-- The inputs of a section that are shown, each with the value in effect. -/
def showSection (sheet : ConnectionSheet) (settings : Settings) (s : ConnectionSection) :
    ShownSection where
  title := some s.title
  inputs := (s.fields.filter (sheet.shows settings)).map fun f =>
    .ofField f.field "config" (sheet.inEffect settings f.field.key)

/-- The connection form with some settings. -/
def render (sheet : ConnectionSheet) (settings : Settings) : ShownForm where
  title := sheet.title
  notice := some (sheet.banner ++ ": " ++ notice)
  sections := sheet.sections.map (sheet.showSection settings)

/-- The connection form of a sheet. -/
def form (sheet : ConnectionSheet) : Form :=
  ⟨sheet.title, sheet.integration.kind, sheet.render⟩

end ConnectionSheet

namespace OperationSheet

/-- The input that chooses the operation. -/
def selector (sheet : OperationSheet) (base operation : String) : ShownInput where
  key := selectorKey
  path := base ++ "." ++ selectorKey
  label := "Operation Type"
  control := .select
  choices := sheet.selectorChoices
  required := true
  placeholder := ""
  help := none
  value := operation

/-- The operation form with some settings, its inputs below a base path: the selector, and the
fields of the chosen operation with their stored texts or their own defaults. -/
def renderAt (sheet : OperationSheet) (base : String) (settings : Settings) : ShownForm :=
  let operation := (settings.text? selectorKey).getD ""
  { title := sheet.title
    notice := none
    sections := [{
      title := none
      inputs := sheet.selector base operation ::
        (sheet.fieldsOf operation).map fun f =>
          .ofField f base (settings.textOr f.key f.default) }] }

/-- The operation form of a sheet. -/
def form (sheet : OperationSheet) : Form :=
  ⟨sheet.title, sheet.integration.kind, sheet.renderAt "config"⟩

end OperationSheet

end ToolAuthoring
