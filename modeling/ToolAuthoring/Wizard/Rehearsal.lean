import ToolAuthoring.Wizard.Basic

/-!
# Rehearsals

A host that follows a script, to try out a wizard without any generator or store behind it. It
applies edits to its draft, and its calls for a preview and for submission end as the script says.
A rehearsal also counts its calls and limits how long it is waited for.
-/

namespace ToolAuthoring

/-- How one scripted call goes: how many times it is asked for before it ends, the message if it
fails, and, for a preview, what becomes the preview if anything does. -/
structure Cue where
  delay : Nat
  failure : Option String
  stored : Option (Option String)
deriving DecidableEq, Repr

namespace Cue

/-- A call that ends well at once. -/
def success : Cue := ⟨0, none, none⟩

/-- What happens to a preview for which the script has no cue. -/
def noGenerator : Cue := ⟨0, some "no code generator", none⟩

end Cue

/-- The state of a rehearsal. -/
structure Rehearsal where
  draft : Draft
  preview : Option String
  /-- what is left of the script -/
  previews : List Cue
  submits : List Cue
  /-- how often each call was made -/
  previewCalls : Nat
  submitCalls : Nat
  cancels : Nat
  /-- the message with which edits are refused, if they are -/
  refusal : Option String
  /-- how many times a pending call is asked for before it is dropped -/
  patience : Nat

namespace Rehearsal

/-- The beginning of a rehearsal. -/
def start (draft : Draft) (preview : Option String) (previews submits : List Cue) : Rehearsal :=
  ⟨draft, preview, previews, submits, 0, 0, 0, none, 0⟩

/-- How a call with a cue ends: it is dropped unless patience outlasts its delay. -/
def ending (r : Rehearsal) (cue : Cue) : CallEnd :=
  if cue.delay < r.patience then
    match cue.failure with
    | some m => .failed m
    | none => .returned
  else .dropped

/-- Apply an edit, unless edits are refused. -/
def change (r : Rehearsal) (e : DraftEdit) : Rehearsal × Except String Unit :=
  match r.refusal with
  | some m => (r, .error m)
  | none =>
    match r.draft.apply e with
    | .ok d => ({ r with draft := d }, .ok ())
    | .error e => (r, .error e.message)

/-- The next cue for a preview is used up, and stored if the call returns. -/
def generate (r : Rehearsal) : HostAnswer Rehearsal :=
  let cue := r.previews.head?.getD .noGenerator
  let r := { r with previews := r.previews.tail, previewCalls := r.previewCalls + 1 }
  match r.ending cue with
  | .returned => ⟨{ r with preview := cue.stored.getD r.preview }, .returned, []⟩
  | other => ⟨r, other, []⟩

/-- The next cue for a submission is used up; behind the script every submission succeeds. -/
def submit (r : Rehearsal) : HostAnswer Rehearsal :=
  let cue := r.submits.head?.getD .success
  let r := { r with submits := r.submits.tail, submitCalls := r.submitCalls + 1 }
  ⟨r, r.ending cue, []⟩

/-- The host that follows the script. -/
def host : Host Rehearsal where
  draft := draft
  preview := preview
  change := fun _ e r => r.change e
  generate := fun _ r => r.generate
  submit := fun _ r => r.submit
  cancel := fun _ r => { r with cancels := r.cancels + 1 }

end Rehearsal

end ToolAuthoring
