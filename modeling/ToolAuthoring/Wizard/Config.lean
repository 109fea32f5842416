import ToolAuthoring.Draft.Codec

/-!
# The configuration of the wizard

Which kind of tool is written by hand, and how code is shown.
-/

namespace ToolAuthoring

/-- The configuration of the wizard. A tool of the self-authored kind needs no generated preview. -/
structure WizardConfig where
  selfAuthored : ToolKind
  excerptLength : UInt64
  language : String
deriving DecidableEq

namespace WizardConfig

/-- Code is written by hand in Python, and five hundred characters of a preview are shown. -/
def standard : WizardConfig := ⟨.customCode, 500, "python"⟩

instance : Inhabited WizardConfig := ⟨standard⟩

/-- Whether a picked kind is the one written by hand. -/
def isSelfAuthored (c : WizardConfig) (kind : Option ToolKind) : Bool :=
  kind == some c.selfAuthored

def json (c : WizardConfig) : Json :=
  .record [("self_authored", c.selfAuthored.json),
    ("review_excerpt_chars", .natural c.excerptLength), ("code_language", .text c.language)]

/-- A member of a configuration. -/
inductive Part where
  | selfAuthored (t : ToolKind)
  | excerptLength (n : UInt64)
  | language (s : String)

/-- Put a member into a configuration. -/
def put (c : WizardConfig) : Part → WizardConfig
  | .selfAuthored t => { c with selfAuthored := t }
  | .excerptLength n => { c with excerptLength := n }
  | .language s => { c with language := s }

def layout : Layout Part where
  title := "WizardConfig"
  slots := [
    ⟨"self_authored", false, fun o d => .selfAuthored <$> ToolKind.decode o d⟩,
    ⟨"review_excerpt_chars", false, fun o d => .excerptLength <$> Decoder.count o d⟩,
    ⟨"code_language", false, fun o d => .language <$> Decoder.text o d⟩]
  others := none

/-- Missing members take their standard values. -/
def decode : Decoder WizardConfig :=
  layout.decode standard put

end WizardConfig

end ToolAuthoring
