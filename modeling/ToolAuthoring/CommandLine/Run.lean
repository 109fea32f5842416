import ToolAuthoring.CommandLine.Arguments
import ToolAuthoring.CommandLine.FileHost
import ToolAuthoring.Log.Filter
import ToolAuthoring.Log.Line
import ToolAuthoring.Wizard.Codec

/-!
# Running commands

A command works on a store of files and ends in a `Report`: what it has printed and logged, the
files as it leaves them, and the failure that ended it, if one did. What is printed before a failure
stays printed.
-/

namespace ToolAuthoring

/-- A command has run. -/
structure Report where
  output : List String
  log : List LogRecord
  files : FileStore
  failure : Option Failure

namespace Report

/-- The command has printed these lines and changed no file. -/
def printed (files : FileStore) (output : List String) (log : List LogRecord) : Report :=
  ⟨output, log, files, none⟩

/-- The command has failed and changed no file. -/
def failed (files : FileStore) (failure : Failure) : Report :=
  ⟨[], [], files, some failure⟩

/-- What is printed on standard output. -/
def outputText (r : Report) : String :=
  String.join (r.output.map (· ++ "\n"))

/-- What is printed on standard error: what is wrong with the filter, the records that it shows, and
the failure. -/
def errorText (r : Report) (filter : LogFilter) : String :=
  String.join ((filter.notices ++ (r.log.filter filter.shows).map (·.line)).map (· ++ "\n"))
    ++ (r.failure.map Failure.text).getD ""

/-- The exit status: zero unless the command has failed. -/
def status (r : Report) : Nat :=
  if r.failure.isSome then 1 else 0

end Report

/-- A text filled up with blanks to a width. -/
def padded (width : Nat) (s : String) : String :=
  s ++ String.ofList (List.replicate (width - s.length) ' ')

namespace Command

/-! ## Listings -/

/-- The kinds of tools by group. -/
def kindLines : List String :=
  Catalog.grouped.flatMap fun g =>
    g.1.label :: g.2.map fun o => "  " ++ padded 12 o.value.name ++ " " ++ o.label

/-- The name of a kind of entry in listings. -/
def entryName : EntryKind → String
  | .text => "text"
  | .url => "url"
  | .password => "password"
  | .textArea => "textarea"
  | .json => "json"
  | .select _ => "select"

/-- A field of an operation. -/
def fieldLine (f : FormField) : String :=
  "  " ++ padded 24 f.key ++ " " ++ padded 28 f.label ++ " " ++ padded 9 (entryName f.entry) ++ " "
    ++ (if f.required then "required " else "")
    ++ (if f.default = "" then "" else "(default: " ++ f.default ++ ")")

/-- An operation with the keys of its fields. -/
def operationLine (op : Operation) : String :=
  "  " ++ padded 16 op.value ++ " " ++ padded 28 op.label ++ " "
    ++ String.intercalate ", " (op.fields.map FormField.key)

/-- The operations of a sheet, or the fields of one of them. -/
def listFields (files : FileStore) (integration : String) (operation : Option String) : Report :=
  match Integration.ofName integration with
  | .error e => .failed files (.plain e.message)
  | .ok i =>
    match operation with
    | none => .printed files (i.operations.title :: i.operations.operations.map operationLine) []
    | some value =>
      match i.operations.operation? value with
      | some op =>
        .printed files
          (i.operations.title :: (op.label ++ " (" ++ op.value ++ ")")
            :: op.fields.map fieldLine) []
      | none =>
        ⟨[i.operations.title], [], files,
          some (.plain ("Unknown operation '" ++ value ++ "' for " ++ i.name))⟩

/-! ## Commands on a draft -/

/-- An input of a form; a required one is marked. -/
def inputLine (i : ShownInput) : String :=
  "  " ++ i.label ++ (if i.required then "*" else "") ++ ": " ++ i.value

/-- A form, its sections apart from each other. -/
def formLines (form : ShownForm) : List String :=
  form.title :: form.notice.toList
    ++ form.sections.flatMap fun s =>
      (match s.title with | some title => ["", title] | none => []) ++ s.inputs.map inputLine

/-- The public settings of a connection, for a kind that has one. -/
def overviewLines (kind : ToolKind) (d : Draft) : List String :=
  match kind.integration? with
  | some i => ["", (textsJson (i.connection.overview d.name d.settings)).pretty]
  | none => []

/-- Show the connection form of a draft, and its public settings. -/
def showConnection (files : FileStore) (path : String) : Report :=
  match FileHost.load files path with
  | .error f => .failed files f
  | .ok h =>
    match h.draft.kind with
    | none => ⟨[], [h.loaded], files, some (.plain "Draft has no tool type")⟩
    | some kind =>
      match FormRegistry.builtin.render kind h.draft.settings with
      | .error e => ⟨[], [h.loaded], files, some (.plain e.message)⟩
      | .ok form => .printed files (formLines form ++ overviewLines kind h.draft) [h.loaded]

/-- The change of a control that sets a field to a value; a checkbox is set to `true` or `false`. -/
def eventOf (field value : String) (checkbox : Bool) : Except Failure ControlEvent :=
  if checkbox then
    if value = "true" then .ok (.ofCheckbox field true)
    else if value = "false" then .ok (.ofCheckbox field false)
    else .error (.plain ("Checkbox value must be true or false, got '" ++ value ++ "'"))
  else .ok (.ofText field value)

/-- Edit a field of a draft and write the draft back. -/
def setField (files : FileStore) (path field value : String) (checkbox : Bool) : Report :=
  match FileHost.load files path with
  | .error f => .failed files f
  | .ok h =>
    let stop (f : Failure) : Report := ⟨[], [h.loaded], files, some f⟩
    match eventOf field value checkbox with
    | .error f => stop f
    | .ok event =>
      match h.draft.applyEvent event with
      | .error e => stop (.plain e.message)
      | .ok d =>
        let h' := { h with draft := d }
        match h'.save with
        | .error f => stop f
        | .ok h'' =>
          ⟨[], [h.loaded, h''.saved,
            ⟨.info, .commandLine, "Set " ++ field ++ " in " ++ path⟩], h''.files, none⟩

/-- Check one step of a draft. -/
def validateStep (files : FileStore) (path step : String) (preview : Option String) : Report :=
  match Step.ofKey? step with
  | none => .failed files (.plain (Step.unknownMessage step))
  | some step =>
    match FileHost.load files path with
    | .error f => .failed files f
    | .ok h =>
      match preview.mapM files.read with
      | .error e => ⟨[], [h.loaded], files, some (.plain e.message)⟩
      | .ok code =>
        match WizardConfig.standard.check step h.draft code with
        | none => .printed files [step.label ++ ": valid"] [h.loaded]
        | some p => ⟨[], [h.loaded], files, some (.plain (step.label ++ ": " ++ p.message))⟩

/-! ## Walking through the wizard -/

/-- A walk has come to its end: wizard and host as it leaves them, the steps it has shown, what was
logged, and the error that stopped it, if one did. -/
structure Walked where
  wizard : Wizard
  host : FileHost
  output : List String
  log : List LogRecord
  failure : Option WizardError

/-- The step where a walk stands. -/
def stepLine (w : Wizard) : String :=
  "[" ++ w.progress ++ "] " ++ w.step.label ++ " - " ++ w.step.description

/-- What a walk that is stopped logs before and behind the wizard's own record. -/
def stopped (w : Wizard) : LogRecord :=
  ⟨.warn, .commandLine, "Wizard stopped at " ++ w.step.key⟩

/-- What a walk logs when its session has been abandoned. -/
def abandoned (h : FileHost) : List LogRecord :=
  if h.cancelled then
    [⟨.info, .commandLine, "Session cancelled; " ++ h.output ++ " left unchanged"⟩]
  else []

/-- Advance over the given number of steps that lie ahead, or abandon the session. -/
def walkSteps (w : Wizard) (h : FileHost) : Nat → Walked
  | 0 => ⟨w, h, [stepLine w], [], none⟩
  | ahead + 1 =>
    let t := w.advance FileHost.host h
    match t.outcome with
    | .failed e =>
      let c := t.wizard.cancel FileHost.host t.host
      ⟨c.wizard, c.host, [stepLine w],
        t.log ++ stopped t.wizard :: c.log ++ abandoned c.host, some e⟩
    | .done _ | .dropped =>
      let r := walkSteps t.wizard t.host ahead
      { r with output := stepLine w :: r.output, log := t.log ++ r.log }

/-- Walk from the current step to the review. -/
def walkOn (w : Wizard) (h : FileHost) : Walked :=
  walkSteps w h (Step.last.index - w.step.index)

/-- Submit at the end of a walk, and report. -/
def finish (walked : Walked) : Report :=
  match walked.failure with
  | some e => ⟨walked.output, walked.log, walked.host.files, some (.plain e.message)⟩
  | none =>
    let w := walked.wizard
    let h := walked.host
    let t := w.submit FileHost.host h
    let shown := walked.output ++ [(w.page h.draft h.preview .builtin).json.pretty]
    let log := walked.log ++ t.log
    match t.outcome with
    | .failed e => ⟨shown, log, t.host.files, some (.plain e.message)⟩
    | .done _ | .dropped => ⟨shown ++ ["Saved to " ++ t.host.output], log, t.host.files, none⟩

/-- Read a configuration of the wizard, or take the standard one. -/
def loadConfig (files : FileStore) : Option String → Except Failure (WizardConfig × List LogRecord)
  | none => .ok (.standard, [])
  | some path =>
    match files.read path with
    | .error e => .error ⟨"I/O error: " ++ e.message, some e.message⟩
    | .ok s =>
      match WizardConfig.decode.ofText s with
      | .error e => .error ⟨"JSON error: " ++ e.message, some e.message⟩
      | .ok config =>
        .ok (config, [⟨.debug, .wizardConfig, "Loaded wizard config from " ++ path⟩])

/-- Walk a draft through the wizard and submit it. -/
def walkThrough (files : FileStore) (path : String) (editing : Bool)
    (preview output config : Option String) : Report :=
  match loadConfig files config with
  | .error f => .failed files f
  | .ok (config, log) =>
    match FileHost.load files path with
    | .error f => ⟨[], log, files, some f⟩
    | .ok h =>
      let w := Wizard.new config editing
      let walked := walkOn w { h with source := preview, output := output.getD path }
      finish { walked with
        output := w.title :: walked.output
        log := log ++ h.loaded :: walked.log }

/-- The paths that a command reads or may write. -/
def paths : Command → List String
  | .types | .fields _ _ => []
  | .connection draft => [draft]
  | .set draft _ _ _ => [draft]
  | .validate draft _ preview => draft :: preview.toList
  | .walk draft _ preview output config =>
    let output := output.getD draft
    [draft, output, replaceExtension output "preview"] ++ preview.toList ++ config.toList

/-- Run a command on a store of files. -/
def run (files : FileStore) : Command → Report
  | .types => .printed files kindLines []
  | .fields integration operation => listFields files integration operation
  | .connection draft => showConnection files draft
  | .set draft field value checkbox => setField files draft field value checkbox
  | .validate draft step preview => validateStep files draft step preview
  | .walk draft editing preview output config =>
    walkThrough files draft editing preview output config

end Command

/-- The filter of an invocation: the one of the environment, if there is one and it can be read, or
else the one given with the command. -/
def Invocation.filter (i : Invocation) (environment : Option String) : LogFilter :=
  match environment.bind LogFilter.ofText? with
  | some f => f
  | none => .ofText (i.logLevel.getD "info")

end ToolAuthoring
