import ToolAuthoring.Json.Decode

/-!
# The steps of the wizard

The wizard walks through five steps in a fixed order: the kind of the tool, its name, its settings,
the code preview, and the review from which it is submitted.
-/

namespace ToolAuthoring

/-- A step of the wizard. -/
inductive Step where
  | kind
  | basics
  | settings
  | preview
  | review
deriving DecidableEq, Repr

namespace Step

/-- All steps, in order. -/
def all : List Step := [.kind, .basics, .settings, .preview, .review]

/-- The number of steps. -/
def count : Nat := all.length

/-- The step at which a new tool starts. -/
def first : Step := .kind

/-- The step that only submitting leaves. -/
def last : Step := .review

/-- The position of a step, from zero. -/
def index : Step → Nat
  | .kind => 0
  | .basics => 1
  | .settings => 2
  | .preview => 3
  | .review => 4

/-- The step at a position. -/
def ofIndex? (i : Nat) : Option Step := all[i]?

/-- The step behind, if there is one. -/
def next? (s : Step) : Option Step := ofIndex? (s.index + 1)

/-- The step before, if there is one. -/
def previous? (s : Step) : Option Step :=
  match s.index with
  | 0 => none
  | i + 1 => ofIndex? i

/-- Whether this is the step of the review. -/
def isLast (s : Step) : Bool := s == last

/-- The key under which a step is stored. -/
def key : Step → String
  | .kind => "type"
  | .basics => "basic"
  | .settings => "config"
  | .preview => "preview"
  | .review => "review"

/-- The heading of a step. -/
def label : Step → String
  | .kind => "Tool Type"
  | .basics => "Basic Info"
  | .settings => "Configuration"
  | .preview => "Preview Code"
  | .review => "Review"

/-- The line under the heading. -/
def description : Step → String
  | .kind => "Select the type of tool"
  | .basics => "Name and description"
  | .settings => "Tool-specific settings"
  | .preview => "Review generated code"
  | .review => "Final review and submit"

/-- The step with a key. -/
def ofKey? (s : String) : Option Step := all.find? fun t => t.key == s

/-- The text of the error that no step has a key. -/
def unknownMessage (s : String) : String := "Unknown step: " ++ s

/-- A step is written as its key. -/
def json (s : Step) : Json := .text s.key

def decode : Decoder Step :=
  .parsed fun s =>
    match ofKey? s with
    | some t => .ok t
    | none => .error (unknownMessage s)

end Step

end ToolAuthoring
