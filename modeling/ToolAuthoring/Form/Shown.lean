import ToolAuthoring.Draft.Edit
import ToolAuthoring.Sheet.Field

/-!
# Shown forms

A form as it is shown: sections of inputs with their current values. An edit of a shown input
leaves the form as an update, and a form knows nothing of what becomes of it.
-/

namespace ToolAuthoring

/-- Why a form does not show or accept something. -/
inductive FormError where
  | notShown (key : String)
  | unknownOperation (integration : Integration) (operation : String)
  | noIntegration
  | noForm (kind : ToolKind)
deriving DecidableEq, Repr

/-- The text of a form error. -/
def FormError.message : FormError → String
  | .notShown key => "Field not visible: " ++ key
  | .unknownOperation i operation => "Unknown operation for " ++ i.name ++ ": " ++ operation
  | .noIntegration => "Node has no integration tool attached"
  | .noForm kind => "No form renderer registered for " ++ kind.name

/-- A new value for a key of a form, taken as it is. -/
structure FormUpdate where
  key : String
  value : String
deriving DecidableEq, Repr

/-- The update as an edit of a draft's settings. -/
def FormUpdate.edit (u : FormUpdate) : DraftEdit := ⟨.setting u.key, .text u.value⟩

/-- The control of a shown input. -/
inductive Control where
  | text
  | url
  | password
  | textArea
  | json
  | select
deriving DecidableEq, Repr

/-- The control with which a value of some kind is entered. -/
def Control.ofEntry : EntryKind → Control
  | .text => .text
  | .url => .url
  | .password => .password
  | .textArea => .textArea
  | .json => .json
  | .select _ => .select

/-- One shown input. The path is the name under which a change of it is reported. -/
structure ShownInput where
  key : String
  path : String
  label : String
  control : Control
  choices : List Choice
  required : Bool
  placeholder : String
  help : Option String
  value : String
deriving DecidableEq, Repr

/-- The input of a field, below a base path, with its current value. -/
def ShownInput.ofField (f : FormField) (base value : String) : ShownInput where
  key := f.key
  path := base ++ "." ++ f.key
  label := f.label
  control := .ofEntry f.entry
  choices := f.choices
  required := f.required
  placeholder := f.placeholder
  help := f.help
  value := value

/-- Shown inputs under a heading, if they have one. -/
structure ShownSection where
  title : Option String
  inputs : List ShownInput
deriving DecidableEq, Repr

/-- A form as it is shown. -/
structure ShownForm where
  title : String
  notice : Option String
  sections : List ShownSection
deriving DecidableEq, Repr

namespace ShownForm

/-- All inputs, in display order. -/
def inputs (form : ShownForm) : List ShownInput :=
  form.sections.flatMap ShownSection.inputs

/-- The first input with a key. -/
def input? (form : ShownForm) (key : String) : Option ShownInput :=
  form.inputs.find? fun i => i.key == key

/-- The keys of all inputs, in display order. -/
def keys (form : ShownForm) : List String :=
  form.inputs.map ShownInput.key

/-- The update that an edit makes. The key must be shown; the value is not looked into. -/
def edit (form : ShownForm) (key value : String) : Except FormError FormUpdate :=
  match form.input? key with
  | some _ => .ok ⟨key, value⟩
  | none => .error (.notShown key)

end ShownForm

end ToolAuthoring
