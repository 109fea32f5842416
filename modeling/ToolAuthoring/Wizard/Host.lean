import ToolAuthoring.Draft.Edit
import ToolAuthoring.Log.Record

/-!
# Hosts

The host of a wizard owns the draft and the preview. The wizard reads both, keeps no copy, and asks
for every change through a call. Generating a preview and submitting take time: such a call may
return or fail, and it may also be dropped by whoever waits for it before it has ended.
-/

namespace ToolAuthoring

/-- Which calls of the host are in flight. Anyone who has seen a wizard can watch them. -/
structure Busy where
  generating : Bool
  submitting : Bool
deriving DecidableEq, Repr

/-- No call is in flight. -/
def Busy.idle : Busy := ⟨false, false⟩

/-- How a call ended. -/
inductive CallEnd where
  | returned
  | failed (message : String)
  | dropped
deriving DecidableEq, Repr

/-- The host behind a call: its state, how the call ended, and what it logged meanwhile. -/
structure HostAnswer (σ : Type) where
  state : σ
  ending : CallEnd
  log : List LogRecord

/-- A host with states in `σ`. Each call sees which calls are in flight. -/
structure Host (σ : Type) where
  draft : σ → Draft
  preview : σ → Option String
  change : Busy → DraftEdit → σ → σ × Except String Unit
  generate : Busy → σ → HostAnswer σ
  submit : Busy → σ → HostAnswer σ
  cancel : Busy → σ → σ

/-- What the wizard can ask of its host. -/
inductive Request where
  | change (e : DraftEdit)
  | generate
  | submit
  | cancel
deriving DecidableEq, Repr

/-- One call of the host: what was asked, what was in flight, the host's state before the call, and
how the call ended. -/
structure HostCall (σ : Type) where
  request : Request
  busy : Busy
  before : σ
  ending : CallEnd

end ToolAuthoring
