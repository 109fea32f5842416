import ToolAuthoring.Draft.Basic

/-!
# Edits

Nobody but the owner of a draft changes it. A form or the wizard describes an edit, the field and
its new value, and the owner applies it. A change reported by an input control names the field by
its dotted name; edits of settings are never looked into.
-/

namespace ToolAuthoring

/-- Why a field, a value or a name is not accepted. -/
inductive DraftError where
  | unknownField (name : String)
  | wrongValueKind (field : String) (expected : String)
  | unknownKind (name : String)
  | unknownIntegration (name : String)
deriving DecidableEq, Repr

/-- The text of a draft error. -/
def DraftError.message : DraftError → String
  | .unknownField name => "Unknown field: " ++ name
  | .wrongValueKind field expected => "Field " ++ field ++ " expects a " ++ expected ++ " value"
  | .unknownKind name => "Unknown tool type: " ++ name
  | .unknownIntegration name => "Unknown integration: " ++ name

/-- The kind with a name, or the error that there is none. -/
def ToolKind.ofName (s : String) : Except DraftError ToolKind :=
  match ofName? s with
  | some t => .ok t
  | none => .error (.unknownKind s)

/-- The integration with a name, or the error that there is none. -/
def Integration.ofName (s : String) : Except DraftError Integration :=
  match ofName? s with
  | some i => .ok i
  | none => .error (.unknownIntegration s)

/-- A field of a draft that can be edited. -/
inductive DraftField where
  | name
  | description
  | kind
  | code
  | active
  | setting (key : String)
deriving DecidableEq, Repr

namespace DraftField

/-- What the dotted name of a setting begins with. -/
def settingMark : String := "config."

/-- The dotted name of a field. -/
def dotted : DraftField → String
  | .name => "name"
  | .description => "description"
  | .kind => "type"
  | .code => "code"
  | .active => "is_active"
  | .setting key => settingMark ++ key

/-- The field with a dotted name. The key of a setting is all that follows the mark, and is not
empty. -/
def ofDotted (s : String) : Except DraftError DraftField :=
  if s = "name" then .ok .name
  else if s = "description" then .ok .description
  else if s = "type" then .ok .kind
  else if s = "code" then .ok .code
  else if s = "is_active" then .ok .active
  else
    let key := s.toList.drop settingMark.toList.length
    if settingMark.toList.isPrefixOf s.toList && !key.isEmpty then
      .ok (.setting (String.ofList key))
    else .error (.unknownField s)

end DraftField

/-- A described edit: the field and its new value. -/
structure DraftEdit where
  field : DraftField
  value : Setting
deriving DecidableEq, Repr

/-- Pick a kind. -/
def DraftEdit.pick (t : ToolKind) : DraftEdit := ⟨.kind, .text t.name⟩

/-- The control that reports a change. -/
inductive ControlKind where
  | text
  | textArea
  | select
  | checkbox
deriving DecidableEq, Repr

namespace ControlKind

/-- All control kinds, in the order in which messages list them. -/
def all : List ControlKind := [.text, .textArea, .select, .checkbox]

/-- The name of a control kind. -/
def name : ControlKind → String
  | .text => "text"
  | .textArea => "text_area"
  | .select => "select"
  | .checkbox => "checkbox"

/-- The control kind with a name. -/
def ofName? (s : String) : Option ControlKind :=
  all.find? fun k => k.name == s

end ControlKind

/-- A change of an input control. A checkbox reports whether it is checked, any other control its
text. -/
structure ControlEvent where
  name : String
  control : ControlKind
  value : String
  checked : Bool
deriving DecidableEq, Repr

namespace ControlEvent

/-- A change of a text input. -/
def ofText (name value : String) : ControlEvent := ⟨name, .text, value, false⟩

/-- A choice from a list. -/
def ofChoice (name value : String) : ControlEvent := ⟨name, .select, value, false⟩

/-- A toggled checkbox. -/
def ofCheckbox (name : String) (checked : Bool) : ControlEvent := ⟨name, .checkbox, "", checked⟩

/-- The edit that a change asks for. -/
def edit (e : ControlEvent) : Except DraftError DraftEdit := do
  let field ← DraftField.ofDotted e.name
  let value :=
    match e.control with
    | .checkbox => Setting.flag e.checked
    | _ => Setting.text e.value
  return ⟨field, value⟩

end ControlEvent

namespace Draft

/-- Apply one edit. The empty text clears the kind; no other text is looked into. -/
def apply (d : Draft) (e : DraftEdit) : Except DraftError Draft :=
  match e.field, e.value with
  | .name, .text s => .ok { d with name := s }
  | .description, .text s => .ok { d with description := s }
  | .code, .text s => .ok { d with code := s }
  | .kind, .text s =>
    if s = "" then .ok { d with kind := none }
    else (ToolKind.ofName s).map fun t => { d with kind := some t }
  | .active, .flag b => .ok { d with active := b }
  | .setting key, v => .ok { d with settings := d.settings.insert key v }
  | field, .text _ => .error (.wrongValueKind field.dotted "boolean")
  | field, .flag _ => .error (.wrongValueKind field.dotted "text")

/-- Apply the edit that a control asks for. -/
def applyEvent (d : Draft) (e : ControlEvent) : Except DraftError Draft := do
  d.apply (← e.edit)

end Draft

end ToolAuthoring
