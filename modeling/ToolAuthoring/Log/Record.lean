/-!
# Log records

Operations return what they would log as a list of records, first to last. Which of them are shown
is decided by whoever runs the operation.
-/

namespace ToolAuthoring

/-- How grave a record is. -/
inductive LogLevel where
  | error
  | warn
  | info
  | debug
deriving DecidableEq, Repr

namespace LogLevel

/-- The name of a level. -/
def name : LogLevel → String
  | .error => "ERROR"
  | .warn => "WARN"
  | .info => "INFO"
  | .debug => "DEBUG"

/-- Levels from the gravest, which has rank one. -/
def rank : LogLevel → Nat
  | .error => 1
  | .warn => 2
  | .info => 3
  | .debug => 4

end LogLevel

/-- The part of the program that a record comes from. -/
inductive LogSource where
  | wizard
  | wizardConfig
  | registry
  | nodeForm
  | commandLine
  | fileHost
deriving DecidableEq, Repr

/-- The target under which a source logs. -/
def LogSource.target : LogSource → String
  | .wizard => "toolwiz_wizard::controller"
  | .wizardConfig => "toolwiz_wizard::config"
  | .registry => "toolwiz_forms::registry"
  | .nodeForm => "toolwiz_forms::node_form"
  | .commandLine => "toolwiz"
  | .fileHost => "toolwiz::host"

/-- One record of the log. -/
structure LogRecord where
  level : LogLevel
  source : LogSource
  message : String
deriving DecidableEq, Repr

end ToolAuthoring
