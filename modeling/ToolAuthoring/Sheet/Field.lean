/-!
# Form fields

The static description of one input of a form: where its value is stored, how it is entered, and
what is shown while nothing is stored.
-/

namespace ToolAuthoring

/-- One entry of a choice. -/
structure Choice where
  value : String
  label : String
deriving DecidableEq, Repr

/-- How a value is entered. -/
inductive EntryKind where
  | text
  | url
  | password
  | textArea
  | json
  | select (choices : List Choice)
deriving DecidableEq, Repr

/-- The description of a form field. -/
structure FormField where
  key : String
  label : String
  entry : EntryKind
  required : Bool
  placeholder : String
  default : String
  help : Option String
deriving DecidableEq, Repr

namespace FormField

/-- An optional field without any extras. -/
def plain (entry : EntryKind) (key label : String) : FormField :=
  ⟨key, label, entry, false, "", "", none⟩

/-- A line of text. -/
def text : String → String → FormField := plain .text

/-- An address. -/
def url : String → String → FormField := plain .url

/-- A secret, masked while it is typed. -/
def password : String → String → FormField := plain .password

/-- Several lines of text. -/
def textArea : String → String → FormField := plain .textArea

/-- JSON, kept as text. The empty record is shown while nothing is stored. -/
def json (key label : String) : FormField :=
  { plain .json key label with default := "\x7b\x7d" }

/-- A choice; `default` is shown while nothing is stored. -/
def select (key label : String) (choices : List Choice) (default : String) : FormField :=
  { plain (.select choices) key label with default := default }

/-- The field marked as required. -/
def require (f : FormField) : FormField := { f with required := true }

/-- The field with a text in its empty input. -/
def hint (f : FormField) (s : String) : FormField := { f with placeholder := s }

/-- The field with another value shown while nothing is stored. -/
def showing (f : FormField) (s : String) : FormField := { f with default := s }

/-- The field with a help line. -/
def explain (f : FormField) (s : String) : FormField := { f with help := some s }

/-- The choices of a field; only a select has any. -/
def choices (f : FormField) : List Choice :=
  match f.entry with
  | .select cs => cs
  | _ => []

end FormField

/-- The default of the first field with a key, or the empty text. -/
def defaultOf (fields : List FormField) (key : String) : String :=
  match fields.find? fun f => f.key == key with
  | some f => f.default
  | none => ""

end ToolAuthoring
