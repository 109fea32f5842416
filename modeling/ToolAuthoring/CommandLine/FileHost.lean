import ToolAuthoring.Draft.Codec
import ToolAuthoring.Files.Store
import ToolAuthoring.Wizard.Host

/-!
# Hosts on files

A host that has read its draft from a file. A preview is read from another file when it is asked
for, and a submission writes the draft and, if there is one, the preview beside it.
-/

namespace ToolAuthoring

/-- Why a command ends early, and what caused it. -/
structure Failure where
  message : String
  cause : Option String
deriving DecidableEq, Repr

namespace Failure

/-- A failure without a further cause. -/
def plain (message : String) : Failure := ⟨message, none⟩

/-- A text with each line behind four blanks. -/
def indent (s : String) : String :=
  "    " ++ String.ofList (s.toList.flatMap fun c => if c = '\n' then "\n    ".toList else [c])

/-- The text of a failure. -/
def text (f : Failure) : String :=
  "Error: " ++ f.message ++ "\n"
    ++ match f.cause with
      | some cause => "\nCaused by:\n" ++ indent cause ++ "\n"
      | none => ""

end Failure

/-- A host on files: the draft and the preview, where the preview is read from and the draft written
to, whether the session was abandoned, and the files themselves. -/
structure FileHost where
  draft : Draft
  preview : Option String
  source : Option String
  output : String
  cancelled : Bool
  files : FileStore

namespace FileHost

/-- A log record of the host. -/
def note (level : LogLevel) (message : String) : LogRecord := ⟨level, .fileHost, message⟩

/-- Read a draft. It is written back to the same file unless the host is told otherwise. -/
def load (files : FileStore) (path : String) : Except Failure FileHost :=
  match files.read path with
  | .error e => .error ⟨"Failed to read draft " ++ path, some e.message⟩
  | .ok s =>
    match Draft.decode.ofText s with
    | .error e => .error ⟨"Invalid draft " ++ path, some e.message⟩
    | .ok d => .ok ⟨d, none, none, path, false, files⟩

/-- What reading a draft logs. -/
def loaded (h : FileHost) : LogRecord :=
  note .debug ("Loaded draft '" ++ h.draft.name ++ "' from " ++ h.output)

/-- Where the preview is written. -/
def previewOutput (h : FileHost) : String :=
  replaceExtension h.output "preview"

/-- Write a text to one of the host's files. -/
def write (h : FileHost) (path s : String) : Except Failure FileHost :=
  match h.files.write path s with
  | .ok files => .ok { h with files := files }
  | .error e => .error ⟨"Failed to write " ++ path, some e.message⟩

/-- Write the draft. -/
def save (h : FileHost) : Except Failure FileHost :=
  h.write h.output h.draft.json.pretty

/-- What writing the draft logs. -/
def saved (h : FileHost) : LogRecord :=
  note .debug ("Saved draft to " ++ h.output)

/-- Write the preview, if there is one. -/
def savePreview (h : FileHost) : Except Failure FileHost :=
  match h.preview with
  | some code => h.write h.previewOutput code
  | none => .ok h

/-- Apply an edit to the draft. -/
def change (h : FileHost) (e : DraftEdit) : FileHost × Except String Unit :=
  match h.draft.apply e with
  | .ok d => ({ h with draft := d }, .ok ())
  | .error e => (h, .error e.message)

/-- Read the preview from its file. -/
def generate (h : FileHost) : HostAnswer FileHost :=
  match h.source with
  | none => ⟨h, .failed "No preview file given", []⟩
  | some path =>
    match h.files.read path with
    | .ok code => ⟨{ h with preview := some code }, .returned, []⟩
    | .error _ => ⟨h, .failed ("Failed to read preview " ++ path), []⟩

/-- Write the draft, and then the preview. -/
def submit (h : FileHost) : HostAnswer FileHost :=
  match h.save with
  | .error f => ⟨h, .failed f.message, []⟩
  | .ok h =>
    match h.savePreview with
    | .error f => ⟨h, .failed f.message, [h.saved]⟩
    | .ok h =>
      ⟨h, .returned,
        [h.saved, note .info ("Submitted '" ++ h.draft.name ++ "' to " ++ h.output)]⟩

/-- The host, as the wizard sees it. -/
def host : Host FileHost where
  draft := draft
  preview := preview
  change := fun _ e h => h.change e
  generate := fun _ h => h.generate
  submit := fun _ h => h.submit
  cancel := fun _ h => { h with cancelled := true }

end FileHost

end ToolAuthoring
