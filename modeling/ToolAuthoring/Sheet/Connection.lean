import ToolAuthoring.Draft.Basic
import ToolAuthoring.Sheet.Field

/-!
# Connection sheets

The settings with which a tool reaches an integration. A field may be gated: it is shown only while
another setting has one of some values. What counts is the value in effect, the stored text or else
the default, so that a fresh draft shows the fields of the default choices.
-/

namespace ToolAuthoring

/-- A condition on the value in effect under a key. -/
structure Gate where
  key : String
  values : List String
deriving DecidableEq, Repr

/-- A field of a connection; a field without a gate is always shown. Credentials are left out of
overviews. -/
structure ConnectionField where
  field : FormField
  gate : Option Gate
  credential : Bool
deriving DecidableEq, Repr

namespace ConnectionField

/-- A field that is always shown. -/
def always (f : FormField) : ConnectionField := ⟨f, none, false⟩

/-- A field that is shown while the value under `key` is one of `values`. -/
def gated (f : FormField) (key : String) (values : List String) : ConnectionField :=
  ⟨f, some ⟨key, values⟩, false⟩

/-- A credential that is always shown. -/
def secret (f : FormField) : ConnectionField := ⟨f, none, true⟩

end ConnectionField

/-- Fields under a common heading. -/
structure ConnectionSection where
  title : String
  fields : List ConnectionField
deriving DecidableEq, Repr

/-- The connection settings of an integration. -/
structure ConnectionSheet where
  integration : Integration
  title : String
  banner : String
  sections : List ConnectionSection
deriving DecidableEq, Repr

namespace ConnectionSheet

/-- The notice on every connection form. -/
def notice : String :=
  "Backend functionality coming soon. Configuration will be saved for future implementation."

/-- All fields, in display order. -/
def fields (sheet : ConnectionSheet) : List ConnectionField :=
  sheet.sections.flatMap ConnectionSection.fields

/-- What is shown under a key while nothing is stored. -/
def defaultFor (sheet : ConnectionSheet) (key : String) : String :=
  defaultOf (sheet.fields.map ConnectionField.field) key

/-- The value in effect under a key: the stored text, or the default. -/
def inEffect (sheet : ConnectionSheet) (settings : Settings) (key : String) : String :=
  settings.textOr key (sheet.defaultFor key)

/-- Whether a field is shown. -/
def shows (sheet : ConnectionSheet) (settings : Settings) (f : ConnectionField) : Bool :=
  match f.gate with
  | none => true
  | some gate => gate.values.contains (sheet.inEffect settings gate.key)

/-- Whether a field appears in overviews: it has no gate and is no credential. -/
def isPublic (f : ConnectionField) : Bool :=
  f.gate.isNone && !f.credential

/-- The name, the type and the public settings in effect. -/
def overview (sheet : ConnectionSheet) (name : String) (settings : Settings) :
    KeyMap String String :=
  .ofList ([("name", name), ("type", sheet.integration.name)]
    ++ (sheet.fields.filter isPublic).map fun f =>
      (f.field.key, sheet.inEffect settings f.field.key))

end ConnectionSheet

end ToolAuthoring
