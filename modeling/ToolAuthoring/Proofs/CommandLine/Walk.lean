import ToolAuthoring.CommandLine.Run
import ToolAuthoring.Proofs.Wizard.Calls

/-!
# Walking through

Walking a draft through the wizard is a loop over the steps that ends early at the first step that
cannot be left.  The preview is read on the way, so a step may be checked before there is one.  Still
the walk comes to its end exactly if every step on the way is valid for the draft as it was read and
for the preview as it could be read.

* `Walks`: the loop, as rules; `walks_walkOn`: the walk follows them and moves on four times at most.
* `Underway`: what holds at every step of a walk; `Underway.advance_done`, `Underway.advance_failed`:
  one more step, or the last one.
* `Walks.arrives`, `Walks.stops`: what a whole walk comes to.
* `walk_settles`: **a walk submits exactly the drafts that are valid at every step**.
-/

namespace ToolAuthoring

/-! ### Reading the preview -/

namespace FileHost

/-- A host that has read a draft. -/
def opened (files : FileStore) (path : String) (d : Draft) : FileHost :=
  ⟨d, none, none, path, false, files⟩

/-- A host that has read a draft to walk it through the wizard. -/
def walking (files : FileStore) (path : String) (d : Draft) (preview output : Option String) :
    FileHost :=
  { opened files path d with source := preview, output := output.getD path }

theorem load_of_read {files : FileStore} {path s : String} {d : Draft}
    (hr : files.read path = .ok s) (hd : Draft.decode.ofText s = .ok d) :
    load files path = .ok (opened files path d) := by
  rw [load, hr]
  simp only [hd]
  rfl

/-- The text in the file of the preview, if there is a file that can be read. -/
def given (x : FileHost) : Option String :=
  x.source.bind fun path => (x.files.read path).toOption

theorem generate_of_given {x : FileHost} {code : String} (hg : x.given = some code) :
    x.generate = ⟨{ x with preview := some code }, .returned, []⟩ := by
  obtain ⟨path, hp, hr⟩ := Option.bind_eq_some_iff.1 hg
  cases he : x.files.read path with
  | error e =>
    rw [he] at hr
    cases hr
  | ok text =>
    rw [he] at hr
    cases hr
    simp only [generate, hp, he]

theorem generate_of_not_given {x : FileHost} (hg : x.given = none) :
    ∃ m, x.generate = ⟨x, .failed m, []⟩ := by
  cases hp : x.source with
  | none => exact ⟨_, by rw [generate, hp]⟩
  | some path =>
    cases he : x.files.read path with
    | error e =>
      refine ⟨"Failed to read preview " ++ path, ?_⟩
      simp only [generate, hp, he]
    | ok text =>
      rw [given, hp, Option.bind_some, he] at hg
      cases hg

/-- A file is read at once, so no call is dropped. -/
theorem generate_ending_ne_dropped (x : FileHost) : x.generate.ending ≠ .dropped := by
  cases hg : x.given with
  | none =>
    obtain ⟨m, hm⟩ := generate_of_not_given hg
    rw [hm]
    nofun
  | some code =>
    rw [generate_of_given hg]
    nofun

end FileHost

/-- The files that the calls of a turn read: a call for a preview reads the file of the preview, if
there is one, and no other call reads any. -/
def Turn.reads {α : Type} (t : Turn FileHost α) : List String :=
  t.calls.flatMap fun c =>
    match c.request with
    | .generate => c.before.source.toList
    | _ => []

theorem Wizard.advance_not_dropped (w : Wizard) (x : FileHost) :
    (w.advance FileHost.host x).outcome ≠ .dropped := by
  have ha := w.advances FileHost.host x
  generalize w.advance FileHost.host x = t at ha
  cases ha with
  | refused | stayed | moved | generated | failed => nofun
  | dropped _ _ he => exact absurd he x.generate_ending_ne_dropped

namespace Command

/-! ### The loop -/

/-- The loop of a walk, with the moves that it makes: it shows the step where it stands, and ends
there if that is the review; if the step cannot be left the session is abandoned, and otherwise the
loop goes on behind it. -/
inductive Walks : Wizard → FileHost → List (Turn FileHost Step) → Walked → Prop
  | arrived {w : Wizard} {x : FileHost} (here : w.step = .review) :
      Walks w x [] ⟨w, x, [stepLine w], [], none⟩
  | stopped {w : Wizard} {x : FileHost} {t : Turn FileHost Step} {c : Turn FileHost Unit}
      {e : WizardError} (ahead : w.step ≠ .review) (move : w.advance FileHost.host x = t)
      (failed : t.outcome = .failed e) (cancelled : t.wizard.cancel FileHost.host t.host = c) :
      Walks w x [t] ⟨c.wizard, c.host, [stepLine w],
        t.log ++ stopped t.wizard :: c.log ++ abandoned c.host, some e⟩
  | moved {w : Wizard} {x : FileHost} {t : Turn FileHost Step} {next : Step}
      {turns : List (Turn FileHost Step)} {r : Walked} (ahead : w.step ≠ .review)
      (move : w.advance FileHost.host x = t) (done : t.outcome = .done next)
      (rest : Walks t.wizard t.host turns r) :
      Walks w x (t :: turns) { r with output := stepLine w :: r.output, log := t.log ++ r.log }

theorem walks_walkSteps (ahead : Nat) (w : Wizard) (x : FileHost)
    (hn : w.step.index + ahead = Step.last.index) :
    ∃ turns, Walks w x turns (walkSteps w x ahead) ∧ turns.length ≤ ahead := by
  -- what is left of the way is the fuel of the loop, so it never runs out before the review
  induction ahead generalizing w x with
  | zero => exact ⟨[], .arrived (Step.index_injective hn), Nat.le_refl _⟩
  | succ ahead ih =>
    have hne : w.step ≠ .review := by
      intro hr
      rw [hr, show Step.last = .review from rfl] at hn
      omega
    cases ho : (w.advance FileHost.host x).outcome with
    | dropped => exact absurd ho (w.advance_not_dropped x)
    | failed e =>
      simp only [walkSteps, ho]
      exact ⟨_, .stopped hne rfl ho rfl, Nat.succ_le_succ (Nat.zero_le _)⟩
    | done next =>
      obtain ⟨hs, hn' | ⟨hr, -⟩⟩ := Wizard.advance_step_of_done ho
      · have hi := Step.next?_eq_some hn'
        obtain ⟨turns, hw, hlen⟩ := ih (w.advance FileHost.host x).wizard
          (w.advance FileHost.host x).host (by rw [hs]; omega)
        simp only [walkSteps, ho]
        exact ⟨_, .moved hne rfl ho hw, Nat.succ_le_succ hlen⟩
      · exact absurd hr hne

theorem walks_walkOn (w : Wizard) (x : FileHost) :
    ∃ turns, Walks w x turns (walkOn w x) ∧ turns.length ≤ 4 := by
  have hle : w.step.index ≤ Step.last.index := by
    cases w.step <;> decide
  obtain ⟨turns, hw, hlen⟩ := walks_walkSteps (Step.last.index - w.step.index) w x (by omega)
  exact ⟨turns, hw, hlen.trans (Nat.sub_le _ _)⟩

/-! ### One step of the way -/

/-- Every step from `step` on is valid for the draft of a host and the preview that it can read. -/
def ValidFrom (c : WizardConfig) (start : FileHost) (step : Step) : Prop :=
  ∀ later : Step, step.index ≤ later.index → c.check later start.draft start.given = none

theorem validFrom_iff_of_next? {c : WizardConfig} {start : FileHost} {step later : Step}
    (hn : step.next? = some later) : ValidFrom c start step ↔
      c.check step start.draft start.given = none ∧ ValidFrom c start later := by
  have hi := Step.next?_eq_some hn
  constructor
  · exact fun hv => ⟨hv step (Nat.le_refl _), fun other hle => hv other (by omega)⟩
  · rintro ⟨hc, hv⟩ other hle
    rcases Nat.lt_or_eq_of_le hle with hlt | heq
    · exact hv other (by omega)
    · rw [← Step.index_injective heq]
      exact hc

theorem validFrom_review (c : WizardConfig) (start : FileHost) : ValidFrom c start .review := by
  intro later hle
  cases later with
  | review => rfl
  | kind | basics | settings | preview => exact absurd hle (by decide)

/-- The host of a walk that has come to a step: it is as it was at the start but for the preview,
which is there behind the settings if one is needed. -/
structure Supplied (c : WizardConfig) (start : FileHost) (step : Step) (x : FileHost) : Prop where
  fresh : start.preview = none
  before : step.index ≤ Step.settings.index → x = start
  spared : c.requiresPreview start.draft = false → x = start
  behind : Step.settings.index < step.index → c.requiresPreview start.draft = true →
    start.given.isSome = true ∧ x = { start with preview := start.given }

/-- A walk is under way: no call is in flight, and the host has what it has at this step. -/
structure Underway (c : WizardConfig) (start : FileHost) (w : Wizard) (x : FileHost) : Prop where
  config : w.config = c
  idle : w.busy = .idle
  supplied : Supplied c start w.step x

namespace Supplied

variable {c : WizardConfig} {start x : FileHost} {step later : Step}

theorem host_eq (hx : Supplied c start step x) : ∃ p, x = { start with preview := p } := by
  by_cases hle : step.index ≤ Step.settings.index
  · exact ⟨start.preview, hx.before hle⟩
  · cases hq : c.requiresPreview start.draft with
    | false => exact ⟨start.preview, hx.spared hq⟩
    | true => exact ⟨start.given, (hx.behind (Nat.lt_of_not_le hle) hq).2⟩

/-- What is found when a step is checked is what the draft and the preview that can be read make of
it. -/
theorem check_eq (hx : Supplied c start step x) :
    c.check step x.draft x.preview = c.check step start.draft start.given := by
  obtain ⟨p, hp⟩ := hx.host_eq
  rw [show x.draft = start.draft by rw [hp]]
  -- only the step of the preview looks at the preview, and it stands behind the settings
  cases step with
  | kind | basics | settings | review => rfl
  | preview =>
    cases hq : c.requiresPreview start.draft with
    | false => simp [WizardConfig.check, hq]
    | true => rw [(hx.behind (by decide) hq).2]

theorem next (hx : Supplied c start step x) (hi : later.index = step.index + 1)
    (hfree : step = .settings → c.requiresPreview start.draft = false) :
    Supplied c start later x where
  fresh := hx.fresh
  before := fun hle => hx.before (by omega)
  spared := hx.spared
  behind := by
    intro hlt hq
    refine hx.behind (Nat.lt_of_le_of_ne (by omega) fun heq => ?_) hq
    rw [hfree (Step.index_injective heq.symm)] at hq
    cases hq

theorem read (hx : Supplied c start .settings x) (hq : c.requiresPreview start.draft = true)
    {code : String} (hg : start.given = some code) :
    Supplied c start .preview { x with preview := some code } where
  fresh := hx.fresh
  before := fun hle => absurd hle (by decide)
  spared := by
    intro hno
    rw [hq] at hno
    cases hno
  behind := by
    intro _ _
    rw [hx.before (Nat.le_refl _), hg]
    exact ⟨rfl, rfl⟩

end Supplied

namespace Underway

variable {c : WizardConfig} {start x : FileHost} {w : Wizard}

theorem check_eq (hu : Underway c start w x) : w.config.check w.step x.draft x.preview =
    c.check w.step start.draft start.given := by
  rw [hu.config]
  exact hu.supplied.check_eq

theorem lacksPreview_of_settings (hu : Underway c start w x) (hs : w.step = .settings) :
    w.lacksPreview FileHost.host x = c.requiresPreview start.draft := by
  have hx : x = start := hu.supplied.before (by rw [hs])
  show (w.config.requiresPreview x.draft && !hasPreview x.preview) = _
  rw [hu.config, hx, hu.supplied.fresh]
  exact Bool.and_true _

/-- A move to the next step keeps a walk under way, and the step that it leaves is valid. -/
theorem advance_done (hu : Underway c start w x) (hne : w.step ≠ .review) {next : Step}
    (hd : (w.advance FileHost.host x).outcome = .done next) :
    w.step.next? = some next ∧ c.check w.step start.draft start.given = none ∧
      Underway c start (w.advance FileHost.host x).wizard (w.advance FileHost.host x).host := by
  have hcheck := hu.check_eq
  have ha := w.advances FileHost.host x
  generalize w.advance FileHost.host x = t at ha hd
  cases ha with
  | refused | failed | dropped => cases hd
  | stayed hr => exact absurd hr hne
  | moved hc hn hl =>
    cases hd
    refine ⟨hn, hcheck.symm.trans hc, hu.config, hu.idle,
      hu.supplied.next (Step.next?_eq_some hn) fun hs => ?_⟩
    rw [← hu.lacksPreview_of_settings hs]
    exact Bool.eq_false_iff.2 fun hlacks => hl ⟨hs, hlacks⟩
  | generated hs hl he =>
    cases hd
    have hsup : Supplied c start .settings x := hs ▸ hu.supplied
    have hq : c.requiresPreview start.draft = true :=
      (hu.lacksPreview_of_settings hs).symm.trans hl
    have hx : x.given = start.given := by rw [hsup.before (Nat.le_refl _)]
    cases hg : start.given with
    | none =>
      obtain ⟨m, hm⟩ := FileHost.generate_of_not_given (hx.trans hg)
      cases (congrArg HostAnswer.ending hm).symm.trans he
    | some code =>
      have hstate : (w.previewAnswer FileHost.host x).state = { x with preview := some code } :=
        congrArg HostAnswer.state (FileHost.generate_of_given (hx.trans hg))
      refine ⟨by rw [hs]; rfl, by rw [hs]; rfl, hu.config,
        Wizard.asked_idle (w := w.checked FileHost.host x) hu.idle, ?_⟩
      rw [hstate]
      exact hsup.read hq hg

/-- A move fails only where some step from there on is not valid, and it leaves the host as it
is. -/
theorem advance_failed (hu : Underway c start w x) {e : WizardError}
    (hf : (w.advance FileHost.host x).outcome = .failed e) :
    (w.advance FileHost.host x).host = x ∧ ¬ ValidFrom c start w.step := by
  have hcheck := hu.check_eq
  have ha := w.advances FileHost.host x
  generalize w.advance FileHost.host x = t at ha hf
  cases ha with
  | stayed | moved | generated | dropped => cases hf
  | refused hc =>
    refine ⟨rfl, fun hv => ?_⟩
    cases (hcheck.trans (hv w.step (Nat.le_refl _))).symm.trans hc
  | failed hs hl he =>
    -- a call fails because nothing can be read, and then the step of the preview is not valid
    have hq : c.requiresPreview start.draft = true :=
      (hu.lacksPreview_of_settings hs).symm.trans hl
    have hx : x.given = start.given := by rw [hu.supplied.before (by rw [hs])]
    cases hg : start.given with
    | some code =>
      cases (congrArg HostAnswer.ending (FileHost.generate_of_given (hx.trans hg))).symm.trans he
    | none =>
      obtain ⟨m, hm⟩ := FileHost.generate_of_not_given (hx.trans hg)
      refine ⟨congrArg HostAnswer.state hm, fun hv => ?_⟩
      have hv' := hv .preview (by rw [hs]; decide)
      rw [WizardConfig.check, hq, hg] at hv'
      cases hv'

theorem advance_reads (hu : Underway c start w x) : (w.advance FileHost.host x).reads =
    if w.step = .settings ∧ c.requiresPreview start.draft = true then start.source.toList
    else [] := by
  rw [Turn.reads, Wizard.advance_calls, Wizard.previewCall?]
  by_cases hs : w.step = .settings
  · have hx : x = start := hu.supplied.before (by rw [hs])
    rw [hu.lacksPreview_of_settings hs]
    cases hq : c.requiresPreview start.draft with
    | false => simp
    | true => simp [hs, hx, Wizard.previewCall]
  · simp [hs]

/-- At the review of a valid draft nothing stands in the way of submitting it. -/
theorem canSubmit_of_review (hu : Underway c start w x) (hs : w.step = .review)
    (hc : c.check .preview start.draft start.given = none) :
    w.canSubmit FileHost.host x = true := by
  obtain ⟨p, hp⟩ := hu.supplied.host_eq
  have hgate : w.canSubmit FileHost.host x =
      (!c.requiresPreview start.draft || hasPreview x.preview) := by
    rw [Wizard.canSubmit, hs, hu.config, hu.idle, show FileHost.host.draft x = start.draft by
      rw [hp]; rfl]
    rfl
  rw [hgate]
  cases hq : c.requiresPreview start.draft with
  | false => rfl
  | true =>
    have hlt : Step.settings.index < w.step.index := by
      rw [hs]
      decide
    rw [(hu.supplied.behind hlt hq).2]
    simpa [WizardConfig.check, hq] using hc

end Underway

/-! ### The whole way -/

namespace Walks

variable {c : WizardConfig} {start x : FileHost} {w : Wizard} {turns : List (Turn FileHost Step)}
  {r : Walked}

theorem submit_not_mem (hw : Walks w x turns r) : .submit ∉ turns.flatMap Turn.requests := by
  have hmove {w : Wizard} {x : FileHost} : .submit ∉ (w.advance FileHost.host x).requests := by
    intro hm
    cases (Wizard.submit_mem_requests (a := .advance).1 hm).1
  induction hw with
  | arrived => exact List.not_mem_nil
  | stopped _ move =>
    subst move
    simpa using hmove
  | moved _ move _ _ ih =>
    subst move
    rw [List.flatMap_cons, List.mem_append]
    exact not_or.2 ⟨hmove, ih⟩

/-- A walk that comes to its end has found every step valid, and has read the preview once if one
is needed. -/
theorem arrives (hw : Walks w x turns r) (hu : Underway c start w x) (hr : r.failure = none) :
    ValidFrom c start w.step ∧ Underway c start r.wizard r.host ∧ r.wizard.step = .review ∧
      turns.flatMap Turn.reads =
        if w.step.index ≤ Step.settings.index ∧ c.requiresPreview start.draft = true then
          start.source.toList else [] := by
  induction hw with
  | arrived here =>
    refine ⟨by rw [here]; exact validFrom_review c start, hu, here, ?_⟩
    rw [here, if_neg fun hi => absurd hi.1 (by decide)]
    rfl
  | stopped => cases hr
  | @moved w x t later turns r ahead move done rest ih =>
    subst move
    obtain ⟨hnext, hc, hu'⟩ := hu.advance_done ahead done
    obtain ⟨hstep, -⟩ := Wizard.advance_step_of_done done
    obtain ⟨hv, hend, hreview, hreads⟩ := ih hu' hr
    rw [hstep] at hv hreads
    refine ⟨(validFrom_iff_of_next? hnext).2 ⟨hc, hv⟩, hend, hreview, ?_⟩
    rw [List.flatMap_cons, hreads, hu.advance_reads]
    -- the preview is read on the move out of the settings, and on no other
    cases hs : w.step <;> rw [hs] at hnext <;> cases hnext <;> simp [Step.index]

/-- A walk that is stopped has come to a step from which not every step is valid.  The session is
abandoned, and the files are as they were. -/
theorem stops (hw : Walks w x turns r) (hu : Underway c start w x) {e : WizardError}
    (hr : r.failure = some e) :
    ¬ ValidFrom c start w.step ∧ r.host.cancelled = true ∧ r.host.files = start.files := by
  induction hw with
  | arrived => cases hr
  | @stopped w x t cancel e' ahead move failed cancelled =>
    subst move cancelled
    obtain ⟨hhost, hno⟩ := hu.advance_failed failed
    obtain ⟨p, hp⟩ := hu.supplied.host_eq
    refine ⟨hno, rfl, ?_⟩
    show (w.advance FileHost.host x).host.files = start.files
    rw [hhost, hp]
  | @moved w x t later turns r ahead move done rest ih =>
    subst move
    obtain ⟨hnext, -, hu'⟩ := hu.advance_done ahead done
    obtain ⟨hstep, -⟩ := Wizard.advance_step_of_done done
    obtain ⟨hno, hcancelled, hfiles⟩ := ih hu' hr
    rw [hstep] at hno
    exact ⟨fun hv => hno ((validFrom_iff_of_next? hnext).1 hv).2, hcancelled, hfiles⟩

/-- A walk that needs no preview reads none, wherever it ends. -/
theorem reads_of_spared (hw : Walks w x turns r) (hu : Underway c start w x)
    (hq : c.requiresPreview start.draft = false) : turns.flatMap Turn.reads = [] := by
  induction hw with
  | arrived => rfl
  | @stopped w x t cancel e ahead move =>
    subst move
    simp [hu.advance_reads, hq]
  | @moved w x t later turns r ahead move done rest ih =>
    subst move
    obtain ⟨-, -, hu'⟩ := hu.advance_done ahead done
    rw [List.flatMap_cons, hu.advance_reads, ih hu']
    simp [hq]

end Walks

/-! ### What is reported -/

theorem finish_of_stopped {r : Walked} {e : WizardError} (hr : r.failure = some e) :
    (finish r).failure = some (.plain e.message) ∧ (finish r).files = r.host.files := by
  rw [finish, hr]
  exact ⟨rfl, rfl⟩

theorem finish_files_of_arrived {r : Walked} (hr : r.failure = none) :
    (finish r).files = (r.wizard.submit FileHost.host r.host).host.files := by
  simp only [finish, hr]
  split <;> rfl

/-- What was printed and logged in front of a walk stands in front of its report. -/
theorem finish_behind (r : Walked) (title : String) (log : List LogRecord) (note : LogRecord) :
    finish { r with output := title :: r.output, log := log ++ note :: r.log } =
      { finish r with
        output := title :: (finish r).output
        log := log ++ note :: (finish r).log } := by
  cases hr : r.failure with
  | some e => simp only [finish, hr]
  | none =>
    simp only [finish, hr]
    split <;> simp

/-- What a walk comes to.  It moves on four times at most and reaches the submission exactly if
every step from the first one on is valid.  Then the draft is submitted once, and the preview has
been read once if one is needed; otherwise it is never read.  A walk that is stopped ends with an
error, submits nothing, abandons the session and leaves the files as they were. -/
structure Settles (c : WizardConfig) (editing : Bool) (start : FileHost)
    (turns : List (Turn FileHost Step)) (walked : Walked) : Prop where
  loop : Walks (.new c editing) start turns walked
  moves : turns.length ≤ 4
  reached : walked.failure = none ↔ ValidFrom c start (Wizard.startStep editing)
  unsubmitted : .submit ∉ turns.flatMap Turn.requests
  submitted : walked.failure = none →
    (walked.wizard.submit FileHost.host walked.host).requests = [.submit] ∧
      (finish walked).files = (walked.wizard.submit FileHost.host walked.host).host.files
  read : walked.failure = none → c.isSelfAuthored start.draft.kind = false →
    ∃ path, start.source = some path ∧ turns.flatMap Turn.reads = [path]
  spared : c.isSelfAuthored start.draft.kind = true → turns.flatMap Turn.reads = []
  stopped : ∀ e, walked.failure = some e →
    (finish walked).failure = some (.plain e.message) ∧ walked.host.cancelled = true ∧
      (finish walked).files = start.files

theorem walkOn_settles (c : WizardConfig) (editing : Bool) {start : FileHost}
    (hfresh : start.preview = none) :
    ∃ turns, Settles c editing start turns (walkOn (.new c editing) start) := by
  have hle : (Wizard.startStep editing).index ≤ Step.settings.index := by
    cases editing <;> decide
  have hu : Underway c start (.new c editing) start :=
    ⟨rfl, rfl, hfresh, fun _ => rfl, fun _ => rfl, fun hlt => absurd hle (Nat.not_le_of_lt hlt)⟩
  obtain ⟨turns, hw, hlen⟩ := walks_walkOn (.new c editing) start
  generalize walkOn (.new c editing) start = walked at hw
  refine ⟨turns, hw, hlen, ⟨fun hr => (hw.arrives hu hr).1, fun hv => ?_⟩, hw.submit_not_mem,
    fun hr => ?_, fun hr hself => ?_, fun hself => ?_, fun e hr => ?_⟩
  · cases hr : walked.failure with
    | none => rfl
    | some e => exact absurd hv (hw.stops hu hr).1
  · obtain ⟨hv, hend, hreview, -⟩ := hw.arrives hu hr
    have hgate := hend.canSubmit_of_review hreview (hv .preview (Nat.le_succ_of_le hle))
    rw [Turn.requests, Wizard.submit_calls, Wizard.submitCall?, if_pos hgate]
    exact ⟨rfl, finish_files_of_arrived hr⟩
  · obtain ⟨hv, -, -, hreads⟩ := hw.arrives hu hr
    have hq : c.requiresPreview start.draft = true := by rw [WizardConfig.requiresPreview, hself]; rfl
    have hgiven : start.given.isSome = true := by
      have hc := hv .preview (Nat.le_succ_of_le hle)
      cases hg : start.given with
      | some code => rfl
      | none =>
        rw [WizardConfig.check, hq, hg] at hc
        cases hc
    obtain ⟨code, hcode⟩ := Option.isSome_iff_exists.1 hgiven
    obtain ⟨path, hp, -⟩ := Option.bind_eq_some_iff.1 hcode
    refine ⟨path, hp, ?_⟩
    rw [hreads, if_pos ⟨hle, hq⟩, hp]
    rfl
  · exact hw.reads_of_spared hu (by rw [WizardConfig.requiresPreview, hself]; rfl)
  · obtain ⟨-, hcancelled, hfiles⟩ := hw.stops hu hr
    obtain ⟨hfail, hkept⟩ := finish_of_stopped hr
    exact ⟨hfail, hcancelled, hkept.trans hfiles⟩

/-- **A walk submits exactly the drafts that are valid at every step.** -/
theorem walk_settles {files : FileStore} {path s : String} {d : Draft}
    (hr : files.read path = .ok s) (hd : Draft.decode.ofText s = .ok d) (c : WizardConfig)
    (editing : Bool) (preview output : Option String) :
    ∃ turns walked,
      Settles c editing (FileHost.walking files path d preview output) turns walked ∧
        ∀ config log, loadConfig files config = .ok (c, log) →
          walkThrough files path editing preview output config =
            { finish walked with
              output := (Wizard.new c editing).title :: (finish walked).output
              log := log ++ (FileHost.opened files path d).loaded :: (finish walked).log } := by
  have hfresh : (FileHost.walking files path d preview output).preview = none := rfl
  obtain ⟨turns, hs⟩ := walkOn_settles c editing hfresh
  refine ⟨turns, _, hs, fun config log hc => ?_⟩
  simp only [walkThrough, hc, FileHost.load_of_read hr hd]
  exact finish_behind _ _ _ _

/-- The draft of a tool, as a file holds it. -/
def fetchText : String := "\x7b\"name\": \"Fetch\", \"type\": \"api_call\"\x7d"

/-- A store with the draft of a tool and a text for its preview. -/
def fetchFiles : FileStore :=
  .ofFiles [("fetch.json", .text fetchText), ("fetch.py", .text "pass")]

/-- The tool is submitted, and its preview has been read once on the way. -/
theorem walk_settles_fetch : ∃ (d : Draft) (turns : List (Turn FileHost Step)) (walked : Walked),
    Settles .standard false (FileHost.walking fetchFiles "fetch.json" d (some "fetch.py") none)
      turns walked ∧ walked.failure = none ∧ turns.flatMap Turn.reads = ["fetch.py"] := by
  have hr : fetchFiles.read "fetch.json" = .ok fetchText := by rfl
  have hread : (Draft.decode.ofText fetchText).toOption.map (fun d => (d.name, d.kind)) =
      some ("Fetch", some .apiCall) := by decide +kernel
  cases hd : Draft.decode.ofText fetchText with
  | error e =>
    rw [hd] at hread
    cases hread
  | ok d =>
    obtain ⟨turns, walked, hs, -⟩ := walk_settles hr hd .standard false (some "fetch.py") none
    obtain ⟨name, description, kind, settings, code, active, parameters⟩ := d
    rw [hd] at hread
    cases hread
    have hgiven : (FileHost.walking fetchFiles "fetch.json"
        ⟨"Fetch", description, some .apiCall, settings, code, active, parameters⟩
        (some "fetch.py") none).given = some "pass" := by rfl
    have hreached : walked.failure = none := by
      refine hs.reached.2 fun later _ => ?_
      rw [hgiven]
      cases later with
      | kind | settings | review => rfl
      | basics =>
        have hname : isBlank "Fetch" = false := by decide
        exact WizardConfig.check_basics_eq_none.2 (congrArg (!·) hname)
      | preview =>
        have hcode : isBlank "pass" = false := by decide
        simp [WizardConfig.check, hasPreview, hcode]
    obtain ⟨path, hp, hreads⟩ := hs.read hreached rfl
    cases hp
    exact ⟨_, turns, walked, hs, hreached, hreads⟩

end Command

end ToolAuthoring
