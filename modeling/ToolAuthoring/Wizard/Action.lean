import ToolAuthoring.Wizard.Basic

/-!
# Actions

All that can be done with a wizard, as data, and what each action does: `Wizard.perform` turns a
wizard and the state of its host into a `Turn`, whichever action it is.
-/

namespace ToolAuthoring

/-- What can be done with a wizard. -/
inductive Action where
  /-- start a new session -/
  | start (editing : Bool)
  | advance
  | retreat
  | jump (step : Step)
  /-- check a step of some draft, be it the host's or not -/
  | validate (step : Step) (draft : Draft) (preview : Option String)
  | input (e : DraftEdit)
  | pickKind (t : ToolKind)
  | generate
  | submit
  | cancel

/-- What an action answers when it is done: nothing, the step it leads to, or whether it
succeeded. -/
inductive Reply where
  | nothing
  | step (s : Step)
  | success (b : Bool)
deriving DecidableEq, Repr

/-- The same outcome with what is done changed by `f`. -/
def Outcome.map {α β : Type} (f : α → β) : Outcome α → Outcome β
  | .done a => .done (f a)
  | .failed e => .failed e
  | .dropped => .dropped

variable {σ : Type}

/-- The same turn with its outcome changed by `f`. -/
def Turn.map {α β : Type} (f : α → β) (t : Turn σ α) : Turn σ β :=
  ⟨t.wizard, t.host, t.outcome.map f, t.calls, t.log⟩

/-- A turn that does not call the host. -/
def Turn.quiet {α : Type} (w : Wizard) (s : σ) (a : α) (log : List LogRecord) : Turn σ α :=
  ⟨w, s, .done a, [], log⟩

/-- A turn that is dropped before it has begun: nothing is called and nothing changes. -/
def Turn.unbegun {α : Type} (w : Wizard) (s : σ) : Turn σ α :=
  ⟨w, s, .dropped, [], []⟩

/-- What an action does. -/
def Wizard.perform (w : Wizard) (h : Host σ) (s : σ) : Action → Turn σ Reply
  | .start editing => .quiet (w.beginSession editing) s .nothing [sessionBegun editing]
  | .advance => (w.advance h s).map .step
  | .retreat => .quiet w.retreat s (.step w.retreat.step) w.retreated
  | .jump step => .quiet (w.jump step) s (.success (w.reaches step)) (w.jumped step)
  | .validate step d preview =>
    .quiet (w.validate step d preview) s (.success (w.config.check step d preview).isNone)
      (w.validated step d preview)
  | .input e => (w.input h s e).map fun _ => .nothing
  | .pickKind t => (w.pickKind h s t).map fun _ => .nothing
  | .generate => (w.generate h s).map fun _ => .nothing
  | .submit => (w.submit h s).map fun _ => .nothing
  | .cancel => (w.cancel h s).map fun _ => .nothing

end ToolAuthoring
