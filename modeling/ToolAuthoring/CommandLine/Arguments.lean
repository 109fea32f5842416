/-!
# Arguments

A command line is the name of a command between options. An option begins with two dashes, and its
value follows it or an equals sign within it. All that stands behind two lone dashes is taken as it
is.
-/

namespace ToolAuthoring

/-- What is wrong with a command line. -/
inductive UsageError where
  | noCommand
  | unknownCommand (name : String)
  | unexpected (argument : String)
  | noValue (option : String)
  | missing (name : String)
  | repeated (name : String)
  | emptyPath (name : String)
deriving DecidableEq, Repr

/-- The text of a usage error. -/
def UsageError.message : UsageError → String
  | .noCommand => "no command given"
  | .unknownCommand name => "unknown command '" ++ name ++ "'"
  | .unexpected argument => "unexpected argument '" ++ argument ++ "'"
  | .noValue option => "option '--" ++ option ++ "' needs a value"
  | .missing name => "argument '" ++ name ++ "' is missing"
  | .repeated name => "argument '" ++ name ++ "' is given more than once"
  | .emptyPath name => "argument '" ++ name ++ "' is empty"

/-- What an argument is: any text, or a path, which is not empty. -/
inductive ArgumentKind where
  | text
  | path
deriving DecidableEq, Repr

/-- The name and the kind of an argument. -/
structure Parameter where
  name : String
  kind : ArgumentKind
deriving DecidableEq, Repr

/-- Which arguments a command takes: those that stand for themselves, in order, options with a
value, and flags. -/
structure Signature where
  positions : List Parameter
  options : List Parameter
  flags : List String
deriving DecidableEq, Repr

/-- The arguments that were given: those that stand for themselves, options with their values, and
flags. -/
structure Arguments where
  positions : List String
  options : List (String × String)
  flags : List String
deriving DecidableEq, Repr

/-- Whether an argument is meant as an option. A lone dash is a value. -/
def looksLikeOption (argument : String) : Bool :=
  argument.toList.head? == some '-' && argument != "-"

/-- The name of an option and the value within it, if there is one. -/
def optionParts? (argument : String) : Option (String × Option String) :=
  match argument.toList with
  | '-' :: '-' :: cs =>
    match cs.span (· ≠ '=') with
    | (name, []) => some (String.ofList name, none)
    | (name, _ :: value) => some (String.ofList name, some (String.ofList value))
  | _ => none

/-- A value that stands behind its option. -/
def followingValue (option value : String) : Except UsageError String :=
  if looksLikeOption value then .error (.noValue option) else .ok value

namespace Arguments

/-- No arguments. -/
def none : Arguments := ⟨[], [], []⟩

def addPosition (value : String) (given : Arguments) : Arguments :=
  { given with positions := value :: given.positions }

def addOption (name value : String) (given : Arguments) : Arguments :=
  { given with options := (name, value) :: given.options }

def addFlag (name : String) (given : Arguments) : Arguments :=
  { given with flags := name :: given.flags }

/-- The value of an option. -/
def option? (given : Arguments) (name : String) : Option String :=
  given.options.lookup name

/-- The value of an option that has to be given. -/
def option (given : Arguments) (name : String) : Except UsageError String :=
  match given.option? name with
  | some value => .ok value
  | Option.none => .error (.missing name)

/-- Whether a flag is given. -/
def flag (given : Arguments) (name : String) : Bool :=
  given.flags.contains name

end Arguments

namespace Signature

/-- Sort the arguments of a command. -/
def scan (s : Signature) : List String → Except UsageError Arguments
  | [] => .ok .none
  | a :: rest =>
    if a = "--" then .ok ⟨rest, [], []⟩
    else
      match optionParts? a with
      | none =>
        if looksLikeOption a then .error (.unexpected a) else (scan s rest).map (.addPosition a)
      | some (name, value?) =>
        if s.flags.contains name then
          if value?.isSome then .error (.unexpected a) else (scan s rest).map (.addFlag name)
        else if s.options.any (·.name == name) then
          match value?, rest with
          | some value, rest => (scan s rest).map (.addOption name value)
          | none, [] => .error (.noValue name)
          | none, v :: rest => do
            let value ← followingValue name v
            (scan s rest).map (.addOption name value)
        else .error (.unexpected a)

/-- Each position has a value. -/
def checkPositions : List Parameter → List String → Except UsageError Unit
  | [], [] => .ok ()
  | [], v :: _ => .error (.unexpected v)
  | p :: _, [] => .error (.missing p.name)
  | p :: ps, v :: vs =>
    if p.kind = .path ∧ v = "" then .error (.emptyPath p.name) else checkPositions ps vs

/-- No name occurs twice. -/
def checkOnce : List String → Except UsageError Unit
  | [] => .ok ()
  | name :: names => if names.contains name then .error (.repeated name) else checkOnce names

/-- Every path is more than the empty text. -/
def checkPaths (s : Signature) : List (String × String) → Except UsageError Unit
  | [] => .ok ()
  | (name, value) :: rest =>
    if value = "" ∧ s.options.contains ⟨name, .path⟩ then .error (.emptyPath name)
    else checkPaths s rest

/-- The arguments of a command, if they fit its signature. -/
def parse (s : Signature) (arguments : List String) : Except UsageError Arguments := do
  let given ← s.scan arguments
  checkPositions s.positions given.positions
  checkOnce (given.options.map (·.1))
  checkOnce given.flags
  s.checkPaths given.options
  return given

end Signature

/-- A command. -/
inductive Command where
  /-- list the kinds of tools -/
  | types
  /-- list the operations of an integration, or the fields of one of them -/
  | fields (integration : String) (operation : Option String)
  /-- show the connection form of a draft -/
  | connection (draft : String)
  /-- edit a field of a draft -/
  | set (draft field value : String) (checkbox : Bool)
  /-- check one step -/
  | validate (draft step : String) (preview : Option String)
  /-- walk through all steps and submit -/
  | walk (draft : String) (editing : Bool) (preview output config : Option String)
deriving DecidableEq, Repr

/-- A command and the filter for its log, if one is given. -/
structure Invocation where
  command : Command
  logLevel : Option String
deriving DecidableEq, Repr

namespace Invocation

/-- The option that every command takes. -/
def logLevelOption : String := "log-level"

/-- The command with a name and arguments. Behind the name, the log option counts for more than in
front of it. -/
def ofCommand (logLevel : Option String) (name : String) (arguments : List String) :
    Except UsageError Invocation := do
  let parse (positions options : List Parameter) (flags : List String) :=
    Signature.parse ⟨positions, ⟨logLevelOption, .text⟩ :: options, flags⟩ arguments
  let invocation (given : Arguments) (command : Command) : Invocation :=
    ⟨command, (given.option? logLevelOption).or logLevel⟩
  let position (given : Arguments) (i : Nat) : String := given.positions[i]?.getD ""
  match name with
  | "types" =>
    let given ← parse [] [] []
    return invocation given .types
  | "fields" =>
    let given ← parse [⟨"integration", .text⟩] [⟨"operation", .text⟩] []
    return invocation given (.fields (position given 0) (given.option? "operation"))
  | "connection" =>
    let given ← parse [⟨"draft", .path⟩] [] []
    return invocation given (.connection (position given 0))
  | "set" =>
    let given ← parse [⟨"draft", .path⟩, ⟨"path", .text⟩, ⟨"value", .text⟩] [] ["checkbox"]
    return invocation given
      (.set (position given 0) (position given 1) (position given 2) (given.flag "checkbox"))
  | "validate" =>
    let given ← parse [⟨"draft", .path⟩] [⟨"step", .text⟩, ⟨"preview-file", .path⟩] []
    return invocation given
      (.validate (position given 0) (← given.option "step") (given.option? "preview-file"))
  | "walk" =>
    let given ← parse [⟨"draft", .path⟩]
      [⟨"preview-file", .path⟩, ⟨"out", .path⟩, ⟨"config", .path⟩] ["editing"]
    return invocation given
      (.walk (position given 0) (given.flag "editing") (given.option? "preview-file")
        (given.option? "out") (given.option? "config"))
  | _ => throw (.unknownCommand name)

/-- The invocation that begins behind a log option, if one has been read. -/
def parseFrom (logLevel : Option String) : List String → Except UsageError Invocation
  | [] => .error .noCommand
  | a :: rest =>
    match optionParts? a with
    | none => if looksLikeOption a then .error (.unexpected a) else ofCommand logLevel a rest
    | some (name, value?) =>
      if name ≠ logLevelOption then .error (.unexpected a)
      else if logLevel.isSome then .error (.repeated name)
      else
        match value?, rest with
        | some value, rest => parseFrom (some value) rest
        | none, [] => .error (.noValue name)
        | none, v :: rest => do
          let value ← followingValue name v
          parseFrom (some value) rest

/-- The invocation that a command line describes. -/
def parse (arguments : List String) : Except UsageError Invocation :=
  parseFrom none arguments

end Invocation

end ToolAuthoring
