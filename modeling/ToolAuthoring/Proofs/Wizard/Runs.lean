import Mathlib.Data.List.Chain
import ToolAuthoring.Proofs.Wizard.Turns
import ToolAuthoring.Wizard.Rehearsal

/-!
# Runs and sessions

A run is what a wizard goes through with one host.  The host belongs to somebody else, so between
two actions its state may become any other; a run therefore lists with each action the state in
which that action found the host.  The latest event comes first.  An action that is dropped before
it has begun changes nothing and is no event.

* `Run`, `Session`: the events so far and the wizard behind them.
* `Reachable`: the wizards that any operations lead to, whoever the hosts are.
* `Run.exists_prior`: each event stands behind an earlier part of its run.
* `Run.config_eq`, `Session.editing_eq`: configuration and mode stay.
* `replay`: the run in which the host is left to itself.
* `Reachable.idle`: between two actions no call is in flight.
-/

namespace ToolAuthoring

variable {σ : Type}

/-- One action of a run: the wizard and the host as the action found them, and what was done. -/
structure Event (σ : Type) where
  wizard : Wizard
  found : σ
  action : Action

/-- What came of an event. -/
def Event.turn (e : Event σ) (h : Host σ) : Turn σ Reply :=
  e.wizard.perform h e.found e.action

/-- A run with a host: the wizard at the start, the events since, and the wizard behind them. -/
inductive Run (h : Host σ) (start : Wizard) : List (Event σ) → Wizard → Prop
  | refl : Run h start [] start
  | tail {past : List (Event σ)} {w : Wizard} (prior : Run h start past w) (s : σ) (a : Action) :
      Run h start (⟨w, s, a⟩ :: past) (w.perform h s a).wizard

/-- A wizard at the start of a session: a new one, or one that begins another session. -/
inductive Opens (editing : Bool) : Wizard → Prop
  | new (config : WizardConfig) : Opens editing (.new config editing)
  | again (w : Wizard) : Opens editing (w.beginSession editing)

/-- A run within one session. -/
structure Session (h : Host σ) (editing : Bool) (start : Wizard) (past : List (Event σ))
    (w : Wizard) : Prop where
  opens : Opens editing start
  run : Run h start past w
  within : ∀ e ∈ past, e.action.opens? = none

/-- What `view` shows of the host stays from the end of one action to the beginning of the next. -/
def Steady {β : Type} (h : Host σ) (view : σ → β) (past : List (Event σ)) : Prop :=
  past.IsChain fun later earlier => view later.found = view (earlier.turn h).host

/-- What becomes of a wizard and a host that nobody else touches, and the events, for actions that
are listed with the latest first. -/
def replay (h : Host σ) (start : Wizard) (s : σ) : List Action → List (Event σ) × Wizard × σ
  | [] => ([], start, s)
  | a :: earlier =>
    let (past, w, s) := replay h start s earlier
    (⟨w, s, a⟩ :: past, (w.perform h s a).wizard, (w.perform h s a).host)

/-- A wizard that operations lead to. They may be carried out with different hosts, and the wizard
may be given another configuration. -/
inductive Reachable : Wizard → Prop
  | new (config : WizardConfig) (editing : Bool) : Reachable (.new config editing)
  | configured {w : Wizard} (prior : Reachable w) (config : WizardConfig) :
      Reachable { w with config := config }
  | perform {σ : Type} {w : Wizard} (prior : Reachable w) (h : Host σ) (s : σ) (a : Action) :
      Reachable (w.perform h s a).wizard

/-! ### What stays -/

theorem Reachable.idle {w : Wizard} (hw : Reachable w) : w.busy = .idle := by
  induction hw with
  | new config editing => rfl
  | configured _ config ih => exact ih
  | perform _ h s a ih => exact Wizard.perform_idle ih h s a

theorem Run.reachable {h : Host σ} {start w : Wizard} {past : List (Event σ)}
    (hr : Run h start past w) (hs : Reachable start) : Reachable w := by
  induction hr with
  | refl => exact hs
  | tail _ s a ih => exact ih.perform h s a

theorem Run.config_eq {h : Host σ} {start w : Wizard} {past : List (Event σ)}
    (hr : Run h start past w) : w.config = start.config := by
  induction hr with
  | refl => rfl
  | tail _ s a ih => rw [Wizard.perform_config, ih]

/-- Each event of a run found the wizard as an earlier part of the run had left it. -/
theorem Run.exists_prior {h : Host σ} {start w : Wizard} {past : List (Event σ)}
    (hr : Run h start past w) {e : Event σ} (he : e ∈ past) :
    ∃ earlier, earlier ⊆ past ∧ Run h start earlier e.wizard := by
  induction hr with
  | refl => cases he
  | tail prior s a ih =>
    rcases List.mem_cons.1 he with rfl | he
    · exact ⟨_, List.subset_cons_self _ _, prior⟩
    · obtain ⟨earlier, hsub, hr⟩ := ih he
      exact ⟨earlier, List.subset_cons_of_subset _ hsub, hr⟩

theorem Run.config_of_mem {h : Host σ} {start w : Wizard} {past : List (Event σ)}
    (hr : Run h start past w) {e : Event σ} (he : e ∈ past) : e.wizard.config = start.config := by
  obtain ⟨_, -, hprior⟩ := hr.exists_prior he
  exact hprior.config_eq

theorem Opens.editing_eq {editing : Bool} {w : Wizard} (ho : Opens editing w) :
    w.editing = editing := by
  cases ho <;> rfl

theorem Opens.step_eq {editing : Bool} {w : Wizard} (ho : Opens editing w) :
    w.step = Wizard.startStep editing := by
  cases ho <;> rfl

theorem Session.editing_eq {h : Host σ} {editing : Bool} {start w : Wizard} {past : List (Event σ)}
    (hs : Session h editing start past w) : w.editing = editing := by
  obtain ⟨ho, hr, hin⟩ := hs
  induction hr with
  | refl => exact ho.editing_eq
  | tail _ s a ih =>
    have ha : a.opens? = none := hin _ List.mem_cons_self
    rw [(Wizard.perform_frame _ h s ha).editing]
    exact ih fun e he => hin e (List.mem_cons_of_mem _ he)

theorem Session.editing_of_mem {h : Host σ} {editing : Bool} {start w : Wizard}
    {past : List (Event σ)} (hs : Session h editing start past w) {e : Event σ} (he : e ∈ past) :
    e.wizard.editing = editing := by
  obtain ⟨_, hsub, hprior⟩ := hs.run.exists_prior he
  exact (Session.mk hs.opens hprior fun e' he' => hs.within e' (hsub he')).editing_eq

theorem replay_run (h : Host σ) (start : Wizard) (s : σ) (actions : List Action) :
    Run h start (replay h start s actions).1 (replay h start s actions).2.1 := by
  induction actions with
  | nil => exact .refl
  | cons a earlier ih => exact ih.tail _ a

theorem replay_steady {β : Type} (h : Host σ) (view : σ → β) (start : Wizard) (s : σ)
    (actions : List Action) : Steady h view (replay h start s actions).1 := by
  induction actions with
  | nil => exact .nil
  | cons a earlier ih =>
    refine List.isChain_cons.2 ⟨fun e he => ?_, ih⟩
    cases earlier with
    | nil => cases he
    | cons b earlier =>
      cases he
      rfl

/-! ### Rehearsals to run through -/

/-- A named tool of a generated kind, and a script that gives it a preview when asked for one. -/
def Rehearsal.fetch : Rehearsal :=
  { Rehearsal.start ⟨"Fetch", "", some .apiCall, .empty, "", false, []⟩ none
      [⟨0, none, some (some "def run(): pass")⟩] [] with patience := 1 }

/-- The same tool with no script for previews. -/
def Rehearsal.mute : Rehearsal := { Rehearsal.fetch with previews := [] }

end ToolAuthoring
