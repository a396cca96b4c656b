import ControlPlane.Proofs.LoneCommands
import ControlPlane.Proofs.OutlastedPolling
import ControlPlane.Proofs.SettingsRanges

/-!
# The limits of clocks and pools

The sums of a session have limits: the time for a batch is a duration of 64 bits, the deadlines of
batches and of jobs and the times of questions are instants of the clock, and a pool has a greatest
number of workers. The checks of settings leave room for numbers beyond the limits of durations,
deadlines and pools.

`Session.Bounds` says when nothing goes beyond: exactly then a batch returns a report, and exactly
then waiting for a job returns. A worker of a batch breaks off only if the deadline of its job or
the time of the next question about it cannot be represented, so as long as the clock keeps time for
both none does (`Crew.unbroken_of_keepsTime`).
-/

namespace ControlPlane

/-! ## Dialogues that do not break off -/

namespace Dialogue

variable {α β σ : Type} {horizon : Instant}

/-- A dialogue does not break off while the clock shows nothing after a horizon. -/
inductive Lasts (horizon : Instant) : Dialogue α → Prop
  | done (a : α) : Lasts horizon (.done a)
  | send {request : Request} {next : Delivery → Dialogue α}
    (h : ∀ delivery, Lasts horizon (next delivery)) : Lasts horizon (.send request next)
  | readClock {next : Instant → Dialogue α} (h : ∀ now ≤ horizon, Lasts horizon (next now)) :
    Lasts horizon (.readClock next)
  | wait {span : Duration} {next : Dialogue α} (h : Lasts horizon next) :
    Lasts horizon (.wait span next)
  | draw {next : Fin 62 → Dialogue α} (h : ∀ letter, Lasts horizon (next letter)) :
    Lasts horizon (.draw next)

theorem lasts_bind {d : Dialogue α} {f : α → Dialogue β} (h : d.Lasts horizon)
    (hf : ∀ a, (f a).Lasts horizon) : (d.bind f).Lasts horizon := by
  induction h with
  | done a => exact hf a
  | send _ ih => exact .send ih
  | readClock _ ih => exact .readClock ih
  | wait _ ih => exact .wait ih
  | draw _ ih => exact .draw ih

theorem lasts_action_bind {action : Action α} {f : α → Action β}
    (h : (ExceptT.run action).Lasts horizon) (hf : ∀ a, (ExceptT.run (f a)).Lasts horizon) :
    (ExceptT.run (action >>= f)).Lasts horizon := by
  refine lasts_bind h fun result => ?_
  cases result with
  | error error => exact .done _
  | ok a => exact hf a

theorem lasts_instantAfter_bind {span : Duration} {f : Instant → Action α}
    (hspan : ∀ now ≤ horizon, (now.later? span).isSome)
    (hf : ∀ instant, (ExceptT.run (f instant)).Lasts horizon) :
    (ExceptT.run (Action.instantAfter span >>= f)).Lasts horizon := by
  rw [Action.exceptRun_instantAfter_bind]
  refine .readClock fun now hnow => ?_
  obtain ⟨instant, hinstant⟩ := Option.isSome_iff_exists.1 (hspan now hnow)
  simp only [hinstant]
  exact hf instant

/-- Where a dialogue stands that has not broken off. -/
def Progress.Lasts (horizon : Instant) : Progress α → Prop
  | .ended result => result.isSome
  | .sleeping _ rest => rest.Lasts horizon

theorem lasts_advance {d : Dialogue α} {world : World σ} (h : d.Lasts horizon)
    (hclock : world.clock ≤ horizon) : (d.advance world).1.Lasts horizon := by
  induction h generalizing world with
  | done a => exact rfl
  | send h _ => exact h _
  | readClock _ ih => exact ih _ hclock hclock
  | wait h _ => exact h
  | draw _ ih => exact @ih _ world.drawOne.2 hclock

end Dialogue

/-! ## Commands -/

namespace Connection

variable {connection : Connection} {horizon : Instant}

theorem lasts_send (connection : Connection) (command : Command) :
    (ExceptT.run (connection.send command)).Lasts horizon := by
  unfold send
  split
  · exact .done _
  · exact .send fun _ => .done _

theorem lasts_queryJob (connection : Connection) (jobId : String) :
    (ExceptT.run (connection.queryJob jobId)).Lasts horizon :=
  Dialogue.lasts_action_bind (lasts_send connection _) fun _ => .done _

theorem lasts_pollUntil (htime : connection.KeepsTime horizon) (command jobId : String)
    (deadline : Instant) (limit : Nat) :
    (ExceptT.run (connection.pollUntil command jobId deadline limit)).Lasts horizon := by
  induction limit with
  | zero => exact .done _
  | succ limit ih =>
    refine Dialogue.lasts_action_bind (lasts_queryJob connection jobId) fun job => ?_
    cases job.status with
    | succeeded => exact .done _
    | failed => exact .done _
    | pending =>
      refine Dialogue.lasts_instantAfter_bind
        (fun now hnow => (keepsTime_of_le htime hnow).question) fun next => ?_
      split
      · exact .done _
      · exact Dialogue.lasts_action_bind (.wait (.done _)) fun _ => ih

/-- Only the deadline of a job and the next question about it can make waiting break off. -/
theorem lasts_waitForJob (htime : connection.KeepsTime horizon) (command jobId : String) :
    (ExceptT.run (connection.waitForJob command jobId)).Lasts horizon :=
  Dialogue.lasts_instantAfter_bind (fun _ hnow => hasTime_of_le htime.deadline hnow)
    fun deadline => lasts_pollUntil htime command jobId deadline _

theorem lasts_executeRaw (htime : connection.KeepsTime horizon) (command : Command) :
    (ExceptT.run (connection.executeRaw command)).Lasts horizon := by
  refine Dialogue.lasts_action_bind (lasts_send connection command) fun body => ?_
  split
  · exact .done _
  · split
    · exact .done _
    · exact Dialogue.lasts_action_bind (lasts_waitForJob htime _ _) fun _ => .done _

/-! ### Waiting -/

section Waiting

variable {σ : Type} {command jobId : String} {deadline : Instant} {world world' : World σ}
  {answer : Except ClientError Job}

/-- A job goes on until the clock cannot represent when it would be asked about next. -/
inductive ClockRunsOut (connection : Connection) (jobId : String) (deadline : Instant) :
    World σ → Prop
  | last {world world' : World σ} {answer : Except ClientError Job}
    (h : connection.IsAsked jobId world answer world')
    (hcut : connection.IsCutShort ⟨world.clock, world'.clock, answer⟩) :
    ClockRunsOut connection jobId deadline world
  | more {world world' : World σ} {job : Job}
    (h : connection.IsAsked jobId world (.ok job) world') (hstatus : job.status = .pending)
    (hearly : world'.clock.later connection.pollInterval ≤ deadline)
    (rest : ClockRunsOut connection jobId deadline (world'.after connection.spacing)) :
    ClockRunsOut connection jobId deadline world

theorem clockRunsOut_iff (h : connection.IsAsked jobId world answer world') :
    connection.ClockRunsOut jobId deadline world ↔
      connection.IsCutShort ⟨world.clock, world'.clock, answer⟩ ∨
      ∃ job, answer = .ok job ∧ job.status = .pending ∧
        world'.clock.later connection.pollInterval ≤ deadline ∧
        connection.ClockRunsOut jobId deadline (world'.after connection.spacing) := by
  constructor
  · intro hruns
    cases hruns with
    | last hasked hcut =>
      obtain ⟨rfl, rfl⟩ := isAsked_unique h hasked
      exact .inl hcut
    | more hasked hstatus hearly hrest =>
      obtain ⟨rfl, rfl⟩ := isAsked_unique h hasked
      exact .inr ⟨_, rfl, hstatus, hearly, hrest⟩
  · rintro (hcut | ⟨job, rfl, hstatus, hearly, hrest⟩)
    · exact .last h hcut
    · exact .more h hstatus hearly hrest

/-- If the limit suffices, waiting breaks off if and only if the clock runs out. -/
theorem run_pollUntil_eq_none_iff {limit : Nat} (hfits : deadline.fits = true)
    (hlimit : connection.Suffices deadline world.clock limit) :
    ((connection.pollUntil command jobId deadline limit).run world).1 = none ↔
      connection.ClockRunsOut jobId deadline world := by
  induction limit generalizing world with
  | zero => exact absurd hlimit not_suffices_zero
  | succ limit ih =>
    obtain ⟨answer, world', hasked⟩ := exists_isAsked connection jobId world
    rw [clockRunsOut_iff hasked]
    rcases run_pollUntil_succ command hfits hasked limit with
      ⟨result?, hrun, hdecided, hends⟩ | ⟨job, rfl, hstatus, hearly, hrun⟩
    · rw [hrun, none_iff_of_ends hends, or_iff_left]
      rintro ⟨job, hjob, hstatus, hearly, -⟩
      exact Nat.not_lt_of_le hearly (hdecided ⟨job, hjob, hstatus⟩)
    · have hnext := Instant.later?_eq_some (Instant.fits_of_le hfits hearly)
      rw [hrun, @ih (world'.after connection.spacing) (hlimit.next hasked.clock_le hearly)]
      constructor
      · intro hruns
        exact .inr ⟨job, rfl, hstatus, hearly, hruns⟩
      · rintro (⟨-, hnone⟩ | ⟨-, -, -, -, hruns⟩)
        · exact absurd (hnone.symm.trans hnext) (by simp)
        · exact hruns

/-- Waiting for a job returns if and only if the deadline of the job can be represented and the
clock does not run out. -/
theorem isSome_run_waitForJob (connection : Connection) (command jobId : String)
    (world : World σ) :
    ((connection.waitForJob command jobId).run world).1.isSome ↔
      (world.clock.later connection.asyncTimeout).fits = true ∧
      ¬ connection.ClockRunsOut jobId (world.clock.later connection.asyncTimeout) world := by
  cases hdeadline : world.clock.later? connection.asyncTimeout with
  | none =>
    have hbroken : (connection.waitForJob command jobId).run world = (none, world) :=
      Action.run_bind_none (Action.run_instantAfter_none hdeadline)
    rw [hbroken, ← Instant.isSome_later?_iff, hdeadline]
    simp
  | some deadline =>
    have hfits := Instant.fits_of_later? hdeadline
    have hpoll := @run_pollUntil_eq_none_iff connection σ command jobId deadline world _ hfits
      (suffices_questionLimit hdeadline)
    rw [waitForJob, Action.run_bind_ok (Action.run_instantAfter hdeadline),
      Instant.later_of_later? hdeadline, ← hpoll, ← Option.ne_none_iff_isSome]
    exact ⟨fun hrun => ⟨hfits, hrun⟩, And.right⟩

/-- After the longest time that waiting may take comes a pause at most. -/
theorem later_pollInterval_le {t limit : Instant} {span : Duration}
    (h : t ≤ (limit.later connection.slack).later span) :
    t.later connection.pollInterval ≤ (limit.later span).later connection.spacing := by
  have hle : t.nanoseconds ≤ limit.nanoseconds + (connection.spacing.nanoseconds -
    connection.pollInterval.nanoseconds) + span.nanoseconds := h
  have hspacing := connection.pollInterval_le_spacing
  show t.nanoseconds + connection.pollInterval.nanoseconds ≤
    limit.nanoseconds + span.nanoseconds + connection.spacing.nanoseconds
  omega

/-- Waiting for a job returns where the clock can represent the next question after the longest
time that it may take. -/
theorem isSome_run_waitForJob_of_fits (connection : Connection) (command jobId : String)
    (world : World σ)
    (hfits : (((world.clock.later connection.asyncTimeout).later connection.requestTimeout).later
      connection.spacing).fits = true) :
    ((connection.waitForJob command jobId).run world).1.isSome := by
  have htime : connection.HasTime world.clock := by
    refine Instant.isSome_later?_iff.2 (Instant.fits_of_le hfits ?_)
    exact Instant.le_trans (Instant.le_later _ _) (Instant.le_later _ _)
  have hanswers : connection.AnswersWithin (.named command) world.answers
      connection.requestTimeout connection.requestTimeout :=
    ⟨fun _ _ _ _ h => World.span_le_patience h, fun _ _ _ _ _ h => World.span_le_patience h⟩
  have hend := Dialogue.run_of_ensures
    (ensures_waitForJob hanswers command jobId htime) world.gives_answers
  rw [← Option.ne_none_iff_isSome]
  intro hnone
  -- had it broken off, the next question would have been beyond what the clock can represent
  have hnext := hend.broken hnone
  rw [Instant.later?_eq_some (Instant.fits_of_le hfits (later_pollInterval_le hend.le))] at hnext
  exact absurd hnext (by simp)

end Waiting

end Connection

/-! ## Workers -/

/-- Work that has not broken off stands at a stage. -/
def Stage.Lasts {α : Type} (horizon : Instant) : Stage α → Prop
  | .upcoming work | .queued work | .running _ work => work.Lasts horizon
  | .ended result => result.isSome

namespace JobRunner

theorem lasts_runOne {runner : JobRunner} {horizon : Instant}
    (htime : runner.client.connection.KeepsTime horizon) (index : Nat) (command : Command) :
    (runner.runOne index command).Lasts horizon :=
  .readClock fun _ _ => Dialogue.lasts_bind (Connection.lasts_executeRaw htime command)
    fun _ => .readClock fun _ _ => .done _

namespace Crew

variable {σ : Type} {runner : JobRunner} {commands : List Command}

/-- The work of a crew does not break off as long as the clock keeps time for a job. -/
def Lasting (runner : JobRunner) (crew : Crew σ) : Prop :=
  ∀ horizon, crew.batch.world.clock ≤ horizon → runner.client.connection.KeepsTime horizon →
    ∀ (k : Nat) (stage : Stage JobOutcome), crew.batch.stages[k]? = some stage →
      stage.Lasts horizon

theorem lasting_initial (schedule : Schedule) (world : World σ) :
    Lasting runner (initial runner commands schedule world) := by
  intro horizon _ htime k stage hk
  simp only [initial, Batch.initial, getElem?_stagesFrom, Option.map_eq_some_iff] at hk
  obtain ⟨command, -, rfl⟩ := hk
  exact lasts_runOne htime _ command

theorem lasting_put {crew : Crew σ} (h : Lasting runner crew) {k permits : Nat}
    {stage stage' : Stage JobOutcome} {world : World σ} (hk : crew.batch.stages[k]? = some stage)
    (hclock : crew.batch.world.clock ≤ world.clock)
    (hstage : ∀ horizon, crew.batch.world.clock ≤ horizon → stage.Lasts horizon →
      stage'.Lasts horizon) :
    Lasting runner { crew.put k stage' world with permits } := by
  intro horizon hhorizon htime j other hother
  have hnow := Instant.le_trans hclock hhorizon
  obtain ⟨hlt, -⟩ := List.getElem?_eq_some_iff.1 hk
  simp only [put] at hother
  by_cases hkj : k = j
  · subst hkj
    rw [List.getElem?_set_self hlt, Option.some.injEq] at hother
    exact hother ▸ hstage horizon hnow (h horizon hnow htime k stage hk)
  · rw [List.getElem?_set_ne hkj] at hother
    exact h horizon hnow htime j other hother

theorem lasting_of_step {schedule : Schedule} {event : Event} {crew crew' : Crew σ}
    (hstep : Step schedule crew event crew') (hunbroken : ∀ k, event ≠ .breaksOff k)
    (h : Lasting runner crew) : Lasting runner crew' := by
  -- work that goes on before a horizon does not break off there
  have goesOn : ∀ {work : Dialogue JobOutcome} {progress : Dialogue.Progress JobOutcome}
      {world : World σ}, work.advance crew.batch.world = (progress, world) →
      crew.batch.world.clock ≤ world.clock ∧ ∀ horizon, crew.batch.world.clock ≤ horizon →
        work.Lasts horizon → progress.Lasts horizon := by
    intro work progress world hadvance
    have hclock := Dialogue.clock_advance work crew.batch.world
    rw [hadvance] at hclock
    refine ⟨Nat.le_of_eq (congrArg _ hclock.symm), ?_⟩
    intro horizon hhorizon hwork
    have hlasts := Dialogue.lasts_advance hwork hhorizon
    rw [hadvance] at hlasts
    exact hlasts
  cases hstep with
  | passes span =>
    intro horizon hhorizon
    exact h horizon (Instant.le_trans (Instant.le_later _ _) hhorizon)
  | submits hk _ => exact lasting_put h hk (Instant.le_refl _) fun _ _ hwork => hwork
  | starts hk _ => exact lasting_put h hk (Instant.le_refl _) fun _ _ hwork => hwork
  | resumes hk _ hadvance =>
    obtain ⟨hclock, hwork⟩ := goesOn hadvance
    exact lasting_put h hk hclock hwork
  | ends hk _ hadvance =>
    obtain ⟨hclock, hwork⟩ := goesOn hadvance
    exact lasting_put h hk hclock hwork
  | breaksOff _ => exact absurd rfl (hunbroken _)
  | joins _ _ _ => exact h

theorem lasting_of_runs {schedule : Schedule} {world : World σ} {events : List Event}
    {crew : Crew σ} (h : Runs schedule (initial runner commands schedule world) events crew)
    (hunbroken : Unbroken events) : Lasting runner crew := by
  induction h with
  | nil => exact lasting_initial schedule world
  | cons _ hstep ih =>
    refine lasting_of_step hstep ?_ (ih fun k hk => hunbroken k (List.mem_cons_of_mem _ hk))
    rintro k rfl
    exact hunbroken k (List.mem_cons_self ..)

/-- As long as the clock keeps time for a job, no worker breaks off of its own. -/
theorem unbroken_of_keepsTime {schedule : Schedule} {world : World σ} {events : List Event}
    {crew : Crew σ} (h : Runs schedule (initial runner commands schedule world) events crew)
    (hunbroken : Unbroken events)
    (htime : runner.client.connection.KeepsTime crew.batch.world.clock) (k : Nat) :
    crew.batch.stages[k]? ≠ some (Stage.ended none) := by
  intro hk
  exact absurd (lasting_of_runs h hunbroken _ (Instant.le_refl _) htime k _ hk)
    (by simp [Stage.Lasts])

end Crew

/-- A batch returns a report if and only if its deadline can be represented and a pool can have as
many workers. -/
theorem isSome_run {σ : Type} (runner : JobRunner) (commands : List Command) (workers : Nat)
    (interval : Duration) (world : World σ) :
    (runner.run commands workers interval world).1.isSome ↔
      (world.clock.later runner.batchTimeout).fits = true ∧ workers ≤ workerLimit := by
  have hcount : workerCount workers ≤ workerLimit ↔ workers ≤ workerLimit := by
    rw [workerCount, Nat.max_le]
    exact ⟨And.left, fun h => ⟨h, by decide⟩⟩
  rw [← Instant.isSome_later?_iff, ← hcount]
  cases hschedule : runner.schedule? commands.length workers interval world.clock with
  | some schedule =>
    obtain ⟨deadline, hdeadline, hworkers, -⟩ := schedule?_eq_some_iff.1 hschedule
    simp [run_eq hschedule, hdeadline, hworkers]
  | none =>
    have hnone : (runner.run commands workers interval world).1 = none := by
      simp only [run, hschedule]
    rw [hnone]
    refine iff_of_false (by simp) ?_
    rintro ⟨hdeadline, hworkers⟩
    obtain ⟨deadline, hdeadline⟩ := Option.isSome_iff_exists.1 hdeadline
    rw [schedule?_eq_some_iff.2 ⟨deadline, hdeadline, hworkers, rfl⟩] at hschedule
    exact absurd hschedule (by simp)

end JobRunner

/-! ## Sessions -/

namespace Session

open JobRunner

/-- Which sums of a session are in bounds, and what depends on it. -/
structure Bounds (settings : Settings) (session : Session) : Prop where
  /-- The time for a batch is exactly one job and one request. -/
  batchTimeout : session.runner.batchTimeout =
    .ofSeconds (settings.asyncTimeoutSecs + settings.management.requestTimeoutSecs)
  /-- A batch returns if its deadline and its workers are in bounds, and only then. -/
  batch_iff : ∀ (σ : Type) commands workers interval (world : World σ),
    (session.runner.run commands workers interval world).1.isSome ↔
      (world.clock.later session.runner.batchTimeout).fits = true ∧ workers ≤ workerLimit
  /-- Without a number of workers the one of the settings counts. -/
  default_iff : ∀ (σ : Type) commands (world : World σ),
    (session.submitAll commands none world).1.isSome ↔
      (world.clock.later session.runner.batchTimeout).fits = true ∧
        settings.defaultWorkers ≤ workerLimit
  /-- Waiting for a job returns if its deadline is in bounds and the clock does not run out while
  the job goes on, and only then. -/
  wait_iff : ∀ (σ : Type) command jobId (world : World σ),
    ((session.client.connection.waitForJob command jobId).run world).1.isSome ↔
      (world.clock.later settings.asyncTimeout).fits = true ∧
      ¬ session.client.connection.ClockRunsOut jobId (world.clock.later settings.asyncTimeout) world
  /-- The clock does not run out if the longest interval is in bounds after the time for the job and
  for a request. -/
  wait_returns : ∀ (σ : Type) command jobId (world : World σ),
    (((world.clock.later settings.asyncTimeout).later settings.management.requestTimeout).later
      (.ofMilliseconds wordLimit)).fits = true →
      ((session.client.connection.waitForJob command jobId).run world).1.isSome
  /-- As long as the deadline of a job and the next question about it are in bounds, no worker of a
  batch breaks off. -/
  workers : ∀ (σ : Type) commands workers interval (world : World σ) schedule events
    (crew : Crew σ),
    session.runner.schedule? commands.length workers interval world.clock = some schedule →
    Crew.Runs schedule (.initial session.runner commands schedule world) events crew →
    Crew.Unbroken events → (crew.batch.world.clock.later settings.asyncTimeout).fits = true →
    (crew.batch.world.clock.later settings.pollInterval).fits = true →
      ∀ k : Nat, crew.batch.stages[k]? ≠ some (Stage.ended none)

theorem add_ofSeconds (m n : Nat) :
    (Duration.ofSeconds m).add (.ofSeconds n) = .ofSeconds (m + n) :=
  congrArg Duration.mk (Nat.add_mul m n Duration.perSecond).symm

theorem fits_ofSeconds (n : Nat) : (Duration.ofSeconds n).fits = true ↔ n ≤ Number.greatest64 := by
  rw [Duration.fits, decide_eq_true_iff, Duration.seconds, Duration.ofSeconds,
    Nat.mul_div_cancel _ (by decide)]

theorem isSome_assemble? (settings : Settings) (client : Client) (table : Option JobTable) :
    (assemble? settings client table).isSome ↔
      settings.asyncTimeoutSecs + settings.management.requestTimeoutSecs ≤ Number.greatest64 := by
  rw [← fits_ofSeconds, ← add_ofSeconds, assemble?, batchTimeout?]
  split
  · rename_i hfits
    exact iff_of_true rfl hfits
  · rename_i hfits
    exact iff_of_false (by simp) hfits

/-- No pause between two questions is longer than the longest interval. -/
theorem spacing_bootstrapClient_le {settings : Settings}
    (hinterval : settings.pollIntervalMs ≤ wordLimit) :
    (bootstrapClient settings).connection.spacing ≤ .ofMilliseconds wordLimit := by
  rw [Connection.spacing]
  split
  · decide
  · exact Nat.mul_le_mul_right _ hinterval

theorem bounds_of_assemble? {settings : Settings} {table : Option JobTable} {session : Session}
    (h : assemble? settings (bootstrapClient settings) table = some session)
    (hinterval : settings.pollIntervalMs ≤ wordLimit) : session.Bounds settings := by
  obtain ⟨hsettings, hclient, -, hlimit⟩ := assemble?_eq_some h
  have hown : session.client = bootstrapClient settings := by
    rw [assemble?, batchTimeout?] at h
    split at h
    · obtain rfl := Option.some.inj h
      rfl
    · exact absurd h (by simp)
  have htimeout : session.runner.client.connection.asyncTimeout = settings.asyncTimeout := by
    rw [hclient]
    rfl
  have hpause : session.runner.client.connection.pollInterval = settings.pollInterval := by
    rw [hclient]
    rfl
  refine
    { batchTimeout := hlimit.trans (add_ofSeconds _ _)
      batch_iff := fun _ => isSome_run session.runner
      default_iff := fun _ commands world => ?_
      wait_iff := fun _ command jobId world => ?_
      wait_returns := fun _ command jobId world hfits => ?_
      workers := ?_ }
  · rw [← hsettings]
    exact isSome_run session.runner commands _ .zero world
  · rw [Connection.isSome_run_waitForJob, hown]
    rfl
  · rw [hown]
    refine Connection.isSome_run_waitForJob_of_fits _ command jobId world
      (Instant.fits_of_le hfits (Nat.add_le_add_left ?_ _))
    exact spacing_bootstrapClient_le hinterval
  · intro σ commands workers interval world schedule events crew _ hruns hunbroken hdeadline hnext
    refine Crew.unbroken_of_keepsTime hruns hunbroken ⟨Instant.isSome_later?_iff.2 ?_,
      Instant.isSome_later?_iff.2 ?_⟩
    · rw [htimeout]
      exact hdeadline
    · rw [hpause]
      exact hnext

/-- Accepted settings, wherever their numbers come from, make a session if and only if the time for
a batch is a duration of 64 bits, and the session keeps to its bounds. -/
theorem bounds_ofAccepted {surplus : Json.Surplus} {record : Json} {given : Settings}
    (hgiven : Settings.ofJson surplus record = .ok given) (lookup : Variables)
    (hvalid : (given.override lookup).validate = .ok ()) :
    ((given.override lookup).database = none →
      connect (given.override lookup) =
        .ok (assemble? (given.override lookup) (bootstrapClient (given.override lookup)) none)) ∧
    ∀ table : Option JobTable,
      ((assemble? (given.override lookup) (bootstrapClient (given.override lookup))
          table).isSome ↔
        (given.override lookup).asyncTimeoutSecs +
          (given.override lookup).management.requestTimeoutSecs ≤ 18446744073709551615) ∧
      ∀ session, assemble? (given.override lookup) (bootstrapClient (given.override lookup)) table =
        some session → session.Bounds (given.override lookup) := by
  have hrange := Settings.inRange_override (Settings.inRange_of_ofJson hgiven) lookup
  refine ⟨?_, fun table => ⟨isSome_assemble? _ _ table,
    fun session hsession => bounds_of_assemble? hsession hrange.pollIntervalMs⟩⟩
  intro hdatabase
  simp only [connect, hvalid, hdatabase]
  rfl

/-- The defaults make a session whose batches return from the start of the clock on. -/
theorem exists_session_within_bounds :
    ∃ session, connect {} = .ok (some session) ∧
      session.runner.batchTimeout = .ofSeconds 3660 ∧
      ∀ commands (world : World Unit), world.clock = ⟨0⟩ →
        (session.submitAll commands none world).1.isSome := by
  obtain ⟨hconnect, hassemble⟩ := bounds_ofAccepted (Settings.ofJson_obj_nil .ignored)
    (fun _ => none) (Settings.override_none {} ▸ Settings.validate_default)
  rw [Settings.override_none] at hconnect hassemble
  obtain ⟨hopens, hbounds⟩ := hassemble none
  obtain ⟨session, hsession⟩ := Option.isSome_iff_exists.1 (hopens.2 (by decide))
  refine ⟨session, (hconnect rfl).trans (congrArg Except.ok hsession), ?_, ?_⟩
  · exact (hbounds session hsession).batchTimeout
  · intro commands world hclock
    refine ((hbounds session hsession).default_iff Unit commands world).2 ⟨?_, by decide⟩
    rw [hclock, (hbounds session hsession).batchTimeout]
    decide

/-- One variable and no others. -/
def onlyVariable (name text : String) : Variables :=
  fun asked => if asked = name then some text else none

/-- No clock can represent more seconds than it has bits for, however early it is. -/
theorem not_fits_later_ofSeconds (t : Instant) {n : Nat} (h : Number.greatestSigned64 < n) :
    ¬ (t.later (.ofSeconds n)).fits = true := by
  have hle : n ≤ (t.later (.ofSeconds n)).nanoseconds / Duration.perSecond := by
    rw [Nat.le_div_iff_mul_le (by decide)]
    exact Nat.le_add_left _ _
  rw [Instant.fits, decide_eq_true_iff]
  exact Nat.not_le_of_lt (Nat.lt_of_lt_of_le h hle)

/-- Defaults that one variable overrides, within the range of its type, are accepted and go beyond
each of the limits: no session is made, no deadline of a batch or a job can be represented, and no
pool has as many workers. -/
theorem exists_accepted_beyond_limits :
    (Settings.override (onlyVariable "STRATUS_ASYNC_TIMEOUT" "18446744073709551615") {}).validate =
      .ok () ∧
    connect (Settings.override (onlyVariable "STRATUS_ASYNC_TIMEOUT" "18446744073709551615") {}) =
      .ok none ∧
    (∃ session, connect (Settings.override (onlyVariable "STRATUS_ASYNC_TIMEOUT"
        "9223372036854775808") {}) = .ok (some session) ∧
      ∀ (world : World Unit), (session.submitAll [.named "listUsers"] none world).1 = none ∧
        ((session.client.connection.waitForJob "deployVirtualMachine" "j-1").run world).1 =
          none) ∧
    ∃ session, connect (Settings.override (onlyVariable "STRATUS_WORKER_THREADS"
        "2305843009213693952") {}) = .ok (some session) ∧
      ∀ (world : World Unit), (session.submitAll [.named "listUsers"] none world).1 = none := by
  have hlong : Settings.override (onlyVariable "STRATUS_ASYNC_TIMEOUT" "18446744073709551615") {} =
      { asyncTimeoutSecs := 18446744073709551615 } := by decide
  have hlate : Settings.override (onlyVariable "STRATUS_ASYNC_TIMEOUT" "9223372036854775808") {} =
      { asyncTimeoutSecs := 9223372036854775808 } := by decide
  have hmany : Settings.override (onlyVariable "STRATUS_WORKER_THREADS" "2305843009213693952") {} =
      { defaultWorkers := 2305843009213693952 } := by decide
  rw [hlong, hlate, hmany]
  refine ⟨rfl, rfl, ?_, ?_⟩
  · obtain ⟨session, hsession⟩ : ∃ session,
        assemble? { asyncTimeoutSecs := 9223372036854775808 } (bootstrapClient
          { asyncTimeoutSecs := 9223372036854775808 }) none = some session := ⟨_, rfl⟩
    have hbounds := bounds_of_assemble? hsession (by decide)
    refine ⟨session, congrArg Except.ok hsession, fun world => ⟨?_, ?_⟩⟩
    · refine Option.not_isSome_iff_eq_none.1 fun hsome => ?_
      have hfits := ((hbounds.default_iff Unit _ world).1 hsome).1
      rw [hbounds.batchTimeout] at hfits
      exact not_fits_later_ofSeconds world.clock (by decide) hfits
    · refine Option.not_isSome_iff_eq_none.1 fun hsome => ?_
      exact not_fits_later_ofSeconds world.clock (by decide)
        ((hbounds.wait_iff Unit _ _ world).1 hsome).1
  · obtain ⟨session, hsession⟩ : ∃ session,
        assemble? { defaultWorkers := 2305843009213693952 } (bootstrapClient
          { defaultWorkers := 2305843009213693952 }) none = some session := ⟨_, rfl⟩
    refine ⟨session, congrArg Except.ok hsession, fun world => ?_⟩
    refine Option.not_isSome_iff_eq_none.1 fun hsome => ?_
    exact absurd (((bounds_of_assemble? hsession (by decide)).default_iff Unit _ world).1 hsome).2
      (by decide)

end Session

end ControlPlane
