import ToolAuthoring.Draft.Kind
import ToolAuthoring.Json.Basic
import ToolAuthoring.Text.Blank

/-!
# Tool drafts

A draft is the record of a tool that is being created or changed. Its settings are an open bag of
texts and flags: which of them mean something is the business of the forms, not of the draft.
-/

namespace ToolAuthoring

/-- The value of one setting. -/
inductive Setting where
  | text (s : String)
  | flag (b : Bool)
deriving DecidableEq, Repr

/-- The text of a setting; a flag has none. -/
def Setting.text? : Setting → Option String
  | .text s => some s
  | .flag _ => none

/-- Settings by key. -/
abbrev Settings := KeyMap String Setting

namespace Settings

/-- The text stored under a key; a flag reads as absent. -/
def text? (m : Settings) (key : String) : Option String :=
  (m.get? key).bind Setting.text?

/-- The text stored under a key, or `default` where none or the empty one is stored. -/
def textOr (m : Settings) (key default : String) : String :=
  match m.text? key with
  | some s => if s = "" then default else s
  | none => default

/-- Settings that are all texts. -/
def ofTexts (m : KeyMap String String) : Settings :=
  m.mapValues .text

end Settings

/-- The record of a tool in progress. The parameters are carried along as they are. -/
structure Draft where
  name : String
  description : String
  kind : Option ToolKind
  settings : Settings
  code : String
  active : Bool
  parameters : List JsonValue

namespace Draft

/-- The draft in which nothing has been filled in. -/
def empty : Draft := ⟨"", "", none, .empty, "", false, []⟩

instance : Inhabited Draft := ⟨empty⟩

/-- Whether a kind has been picked. -/
def hasKind (d : Draft) : Bool :=
  d.kind.isSome

/-- Whether the name is more than white space. -/
def hasName (d : Draft) : Bool :=
  !isBlank d.name

end Draft

end ToolAuthoring
