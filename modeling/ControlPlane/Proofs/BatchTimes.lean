import ControlPlane.Proofs.ActionRuns
import ControlPlane.Proofs.Permits

/-!
# When a batch ends

A batch has a time limit, but nobody looks at it while commands are still to be submitted: one is
submitted after another, an interval apart, and only then the time is watched. So a batch is over by
the deadline or by the last submission, whichever is later (`clock_run`). It keeps to the time
limit exactly if the last command is submitted within it.

Nothing happens in a batch after it is over: no command starts, no request arrives, and what has not
ended by then is reported as timed out (`EndsBy`).
-/

namespace ControlPlane

namespace Dialogue

variable {α σ : Type}

/-- A dialogue that goes on sends its requests at once. -/
theorem arrivals_advance (d : Dialogue α) (world : World σ) :
    ∃ sent : List Arrival, (d.advance world).2.arrivals = sent ++ world.arrivals ∧
      ∀ arrival ∈ sent, arrival.arrived = world.clock := by
  induction d generalizing world with
  | done a => exact ⟨[], rfl, by simp⟩
  | broken => exact ⟨[], rfl, by simp⟩
  | send request next ih =>
    obtain ⟨sent, harrivals, -, hsent⟩ := world.arrivals_afterRequest request
    exact ⟨sent, harrivals, fun arrival harrival => (hsent arrival harrival).2⟩
  | readClock next ih => exact ih _ world
  | wait span next ih => exact ⟨[], rfl, by simp⟩
  | draw next ih => exact ih _ world.drawOne.2

end Dialogue

namespace Schedule

variable {α σ : Type} {schedule : Schedule} {stages : List (Stage α)} {world : World σ}
  {pool pool' : List (Stage α) × World σ}

/-- What a pool comes to in some steps. -/
abbrev Passes (schedule : Schedule) :
    List (Stage α) × World σ → List (Stage α) × World σ → Prop :=
  Relation.ReflTransGen fun pool pool' => schedule.step pool.1 pool.2 = some pool'

theorem passes_drive (schedule : Schedule) (stages : List (Stage α)) (world : World σ) :
    schedule.Passes (stages, world) (schedule.drive stages world) := by
  fun_induction drive schedule stages world with
  | case1 => exact .refl
  | case2 stages world stages' world' hstep ih => exact ih.head hstep

/-- What is so all the way of a pool that is not ahead of its time: it is never beyond the cut-off,
requests arrive in the present, and nothing that is to come in later has been let in. -/
structure OnTime (schedule : Schedule) (start : World σ) (pool : List (Stage α) × World σ) :
    Prop where
  timely : schedule.Timely pool.1 pool.2.clock
  clock : pool.2.clock ≤ schedule.cutoff
  arrivals : ∃ sent : List Arrival, pool.2.arrivals = sent ++ start.arrivals ∧
    ∀ arrival ∈ sent, arrival.arrived ≤ pool.2.clock
  submitted : ∀ (k : Nat) stage, pool.1[k]? = some stage → (∀ work, stage ≠ .upcoming work) →
    schedule.submission k ≤ pool.2.clock

theorem arrivals_perform (stage : Stage α) (world : World σ) :
    ∃ sent : List Arrival, (perform stage world).2.arrivals = sent ++ world.arrivals ∧
      ∀ arrival ∈ sent, arrival.arrived = world.clock := by
  cases stage with
  | running wake work =>
    have harrivals := work.arrivals_advance world
    rw [perform]
    rcases hadvance : work.advance world with ⟨result | ⟨wake', rest⟩, world'⟩
    · rw [hadvance] at harrivals
      exact harrivals
    · rw [hadvance] at harrivals
      exact harrivals
  | upcoming work => exact ⟨[], rfl, by simp⟩
  | queued work => exact ⟨[], rfl, by simp⟩
  | ended result => exact ⟨[], rfl, by simp⟩

theorem onTime_of_step {start : World σ} (h : schedule.OnTime start pool)
    (hstep : schedule.step pool.1 pool.2 = some pool') : schedule.OnTime start pool' := by
  obtain ⟨stages', world'⟩ := pool'
  obtain ⟨-, htimely, hclock⟩ := history_of_step hstep h.timely h.clock
  obtain ⟨t, k, stage, hnext, hk, -, rfl, rfl⟩ := step_eq_some hstep
  obtain ⟨hlater, -, hready, -⟩ := ready_of_next hnext hk h.timely h.clock
  obtain ⟨hlt, -⟩ := List.getElem?_eq_some_iff.1 hk
  refine ⟨htimely, hclock, ?_, ?_⟩
  · obtain ⟨before, hbefore, hbeforeArrived⟩ := h.arrivals
    obtain ⟨sent, hsent, hsentArrived⟩ := arrivals_perform stage { pool.2 with clock := t }
    refine ⟨sent ++ before, ?_, ?_⟩
    · rw [hsent, List.append_assoc, ← hbefore]
    · intro arrival harrival
      simp only [clock_perform]
      rcases List.mem_append.1 harrival with hnew | hold
      · exact hsentArrived arrival hnew ▸ Instant.le_refl _
      · exact Instant.le_trans (hbeforeArrived arrival hold) hlater
  · intro j other hj hother
    simp only [clock_perform]
    by_cases hkj : k = j
    · subst hkj
      cases stage with
      | upcoming work => exact hready
      | queued work =>
        exact Instant.le_trans (h.submitted k _ hk (by simp)) hlater
      | running wake work =>
        exact Instant.le_trans (h.submitted k _ hk (by simp)) hlater
      | ended result =>
        exact Instant.le_trans (h.submitted k _ hk (by simp)) hlater
    · rw [List.getElem?_set_ne hkj] at hj
      exact Instant.le_trans (h.submitted j other hj hother) hlater

theorem onTime_of_passes {start : World σ} (h : schedule.OnTime start pool)
    (hpasses : schedule.Passes pool pool') : schedule.OnTime start pool' := by
  induction hpasses with
  | refl => exact h
  | tail _ hstep ih => exact onTime_of_step ih hstep

theorem clock_le_of_passes {start : World σ} (h : schedule.OnTime start pool)
    (hpasses : schedule.Passes pool pool') : pool.2.clock ≤ pool'.2.clock := by
  induction hpasses with
  | refl => exact Instant.le_refl _
  | @tail middle last hbefore hstep ih =>
    obtain ⟨stages', world'⟩ := last
    have honTime := onTime_of_passes h hbefore
    obtain ⟨t, k, stage, hnext, hk, -, -, rfl⟩ := step_eq_some hstep
    obtain ⟨hlater, -, -, -⟩ := ready_of_next hnext hk honTime.timely honTime.clock
    simp only [clock_perform]
    exact Instant.le_trans ih hlater

theorem drive_of_step (h : schedule.step stages world = some pool) :
    schedule.drive stages world = schedule.drive pool.1 pool.2 := by
  rw [drive]
  split
  · rename_i hnone
    exact absurd (h.symm.trans hnone) (by simp)
  · rename_i hsome
    rw [h, Option.some.injEq] at hsome
    rw [hsome]

/-- A pool on its way comes to the same end. -/
theorem drive_eq_of_passes (hpasses : schedule.Passes pool pool') :
    schedule.drive pool'.1 pool'.2 = schedule.drive pool.1 pool.2 := by
  induction hpasses with
  | refl => rfl
  | tail _ hstep ih => rw [← ih, drive_of_step hstep]

end Schedule

namespace JobRunner

variable {σ : Type} {runner : JobRunner} {commands : List Command} {workers : Nat}
  {interval : Duration} {world : World σ} {schedule : Schedule}

/-- When the last command of a batch is submitted. -/
def lastSubmission (count : Nat) (interval : Duration) (start : Instant) : Instant :=
  start.later ⟨(count - 1) * interval.nanoseconds⟩

/-- Whether a batch keeps to a limit: it is over by then, no command starts and no request arrives
after it, and a command that has not ended when the batch is over is reported as timed out. -/
structure EndsBy (runner : JobRunner) (commands : List Command) (schedule : Schedule)
    (world : World σ) (limit : Instant) (report : BatchReport) (world' : World σ) : Prop where
  isOver : world'.clock ≤ limit
  starts : ∀ pool pool' (k : Nat) (work : Dialogue JobOutcome),
    schedule.Passes (runner.stagesFrom 0 commands, world) pool →
      schedule.step pool.1 pool.2 = some pool' → pool.1[k]? = some (Stage.queued work) →
        pool'.1[k]? ≠ some (Stage.queued work) → pool'.2.clock ≤ limit
  requests : ∃ sent : List Arrival, world'.arrivals = sent ++ world.arrivals ∧
    ∀ arrival ∈ sent, arrival.arrived ≤ limit
  unfinished : ∀ k < commands.length,
    (∀ result, (schedule.drive (runner.stagesFrom 0 commands) world).1[k]? ≠
      some (Stage.ended result)) →
        ∃ outcome, report.outcomes[k]? = some outcome ∧ outcome.result = .timedOut

theorem onTime_start
    (h : runner.schedule? commands.length workers interval world.clock = some schedule) :
    schedule.OnTime world (runner.stagesFrom 0 commands, world) := by
  obtain ⟨htimely, hclock⟩ := timely_start h
  refine ⟨htimely, hclock, ⟨[], rfl, by simp⟩, ?_⟩
  intro k stage hk hstage
  simp only [getElem?_stagesFrom, Option.map_eq_some_iff] at hk
  obtain ⟨command, -, rfl⟩ := hk
  exact absurd rfl (hstage _)

/-- A batch is over when its pool has come to its end, or at the cut-off. -/
theorem clock_le_closing {stages : List (Stage JobOutcome)} {driven : World σ}
    (h : driven.clock ≤ schedule.cutoff) :
    driven.clock ≤ (closing schedule stages driven).clock ∧
      (closing schedule stages driven).clock ≤ schedule.cutoff ∧
      (closing schedule stages driven).arrivals = driven.arrivals := by
  rw [closing]
  split
  · exact ⟨h, Instant.le_refl _, rfl⟩
  · exact ⟨Instant.le_refl _, h, rfl⟩

/-- A batch is over by its cut-off, and not before its last submission. -/
theorem clock_run
    (h : runner.schedule? commands.length workers interval world.clock = some schedule) :
    (runner.run commands workers interval world).2.clock ≤ schedule.cutoff ∧
      lastSubmission commands.length interval world.clock ≤
        (runner.run commands workers interval world).2.clock := by
  have hpasses := schedule.passes_drive (runner.stagesFrom 0 commands) world
  have honTime := Schedule.onTime_of_passes (onTime_start h) hpasses
  have hstart := Schedule.clock_le_of_passes (onTime_start h) hpasses
  have hsubmitted := allSubmitted_drive h
  have hlength := Schedule.length_drive schedule (runner.stagesFrom 0 commands) world
  rw [run_eq h]
  generalize schedule.drive (runner.stagesFrom 0 commands) world = driven at *
  obtain ⟨hlater, hcutoff, -⟩ := @clock_le_closing _ _ driven.1 _ honTime.clock
  refine ⟨hcutoff, Instant.le_trans ?_ hlater⟩
  rw [length_stagesFrom] at hlength
  cases hcount : commands.length with
  | zero =>
    refine Instant.le_trans (Nat.le_of_eq ?_) hstart
    simp [lastSubmission, Instant.later]
  | succ count =>
    have hlt : count < driven.1.length := by omega
    have hlast := honTime.submitted count _ (List.getElem?_eq_getElem hlt)
      fun work hwork => hsubmitted work (hwork ▸ List.getElem_mem hlt)
    obtain ⟨_, -, -, rfl⟩ := schedule?_eq_some_iff.1 h
    exact hlast

theorem isCutShort_of_unfinished {stages : List (Stage JobOutcome)} {k : Nat}
    (hk : k < stages.length) (hunfinished : ∀ result, stages[k]? ≠ some (Stage.ended result)) :
    isCutShort stages = true := by
  rw [List.getElem?_eq_getElem hk] at hunfinished
  rw [isCutShort, Bool.not_eq_true', List.all_eq_false]
  refine ⟨_, List.getElem_mem hk, ?_⟩
  cases hstage : stages[k] with
  | ended result => exact absurd (congrArg some hstage) (hunfinished result)
  | upcoming work => simp [hasEnded]
  | queued work => simp [hasEnded]
  | running wake work => simp [hasEnded]

/-- What has not ended when a batch is over is reported as timed out. -/
theorem timedOut_of_unfinished
    (h : runner.schedule? commands.length workers interval world.clock = some schedule) {k : Nat}
    (hk : k < commands.length)
    (hunfinished : ∀ result, (schedule.drive (runner.stagesFrom 0 commands) world).1[k]? ≠
      some (Stage.ended result)) :
    ∃ report world' outcome, runner.run commands workers interval world = (some report, world') ∧
      report.outcomes[k]? = some outcome ∧ outcome.result = .timedOut := by
  obtain ⟨batch, ⟨events, crew, hruns, -, rfl⟩, hstages, hover, hrun⟩ :=
    Crew.exists_reaches_of_run h
  have htracked := Batch.tracked_of_history (Crew.history_of_runs hruns)
    (Batch.tracked_initial runner commands world)
  have hfaithful := Batch.isFaithful_of_isOver htracked hover world.clock
  rw [← hstages] at hunfinished
  have hcut := isCutShort_of_unfinished (htracked.length_stages ▸ hk) hunfinished
  have hlt := hk
  rw [← hfaithful.length] at hlt
  have hresult := (hfaithful.others k _ (List.getElem?_eq_getElem hlt)
    fun own hown => hunfinished (some own) hown).2.2
  rw [if_pos hcut] at hresult
  exact ⟨_, _, _, hrun, List.getElem?_eq_getElem hlt, hresult⟩

/-- A batch with a schedule keeps to any limit that it is over by. -/
theorem endsBy_run
    (h : runner.schedule? commands.length workers interval world.clock = some schedule) :
    ∃ report world', runner.run commands workers interval world = (some report, world') ∧
      ∀ limit, EndsBy runner commands schedule world limit report world' ↔
        world'.clock ≤ limit := by
  have hpasses := schedule.passes_drive (runner.stagesFrom 0 commands) world
  have honTime := Schedule.onTime_of_passes (onTime_start h) hpasses
  obtain ⟨hlater, -, harrivals⟩ := @clock_le_closing _ _
    (schedule.drive (runner.stagesFrom 0 commands) world).1 _ honTime.clock
  refine ⟨_, _, run_eq h, ?_⟩
  intro limit
  refine ⟨fun hends => hends.isOver, fun hover => ⟨hover, ?_, ?_, ?_⟩⟩
  · intro pool pool' k work hbefore hstep _ _
    -- the pool goes on to the end of the batch from here
    have hmiddle := hbefore.tail hstep
    have hrest := schedule.passes_drive pool'.1 pool'.2
    rw [Schedule.drive_eq_of_passes hmiddle] at hrest
    have hle := Schedule.clock_le_of_passes
      (Schedule.onTime_of_passes (onTime_start h) hmiddle) hrest
    exact Instant.le_trans (Instant.le_trans hle hlater) hover
  · obtain ⟨sent, hsent, harrived⟩ := honTime.arrivals
    refine ⟨sent, harrivals.trans hsent, ?_⟩
    intro arrival harrival
    exact Instant.le_trans (harrived arrival harrival) (Instant.le_trans hlater hover)
  · intro k hk hunfinished
    obtain ⟨report, world', outcome, hrun, houtcome⟩ := timedOut_of_unfinished h hk hunfinished
    rw [run_eq h, Prod.mk.injEq, Option.some.injEq] at hrun
    rw [hrun.1]
    exact ⟨outcome, houtcome⟩

/-- A batch starts at once, and its time is up after the time limit. -/
theorem times_of_schedule? {count : Nat} {now : Instant}
    (h : runner.schedule? count workers interval now = some schedule) :
    schedule.start = now ∧ now.later? runner.batchTimeout = some schedule.deadline := by
  obtain ⟨deadline, hdeadline, -, rfl⟩ := schedule?_eq_some_iff.1 h
  exact ⟨rfl, hdeadline⟩

section Limit

variable (hdeadline : (world.clock.later? runner.batchTimeout).isSome)
  (hworkers : workers ≤ workerLimit)

include hdeadline hworkers

/-- A batch whose deadline can be represented and whose workers a pool can have has a schedule. It
is cut off at the deadline or at the last submission. -/
theorem exists_schedule (count : Nat) (interval : Duration) :
    ∃ schedule, runner.schedule? count workers interval world.clock = some schedule ∧
      schedule.cutoff = laterOf (world.clock.later runner.batchTimeout)
        (lastSubmission count interval world.clock) := by
  obtain ⟨deadline, hdeadline⟩ := Option.isSome_iff_exists.1 hdeadline
  have hcount : workerCount workers ≤ workerLimit := Nat.max_le.2 ⟨hworkers, by decide⟩
  refine ⟨_, schedule?_eq_some_iff.2 ⟨deadline, hdeadline, hcount, rfl⟩, ?_⟩
  rw [Instant.later_of_later? hdeadline]
  rfl

/-- A batch whose last command is submitted after the time limit is over after it. -/
theorem limit_lt_clock_run (hlate : runner.batchTimeout.nanoseconds <
      (commands.length - 1) * interval.nanoseconds) :
    ∃ report world', runner.run commands workers interval world = (some report, world') ∧
      world.clock.later runner.batchTimeout < world'.clock := by
  obtain ⟨schedule, hschedule, -⟩ := exists_schedule hdeadline hworkers commands.length interval
  obtain ⟨-, hlast⟩ := clock_run hschedule
  obtain ⟨report, world', hrun, -⟩ := endsBy_run hschedule
  rw [hrun] at hlast
  exact ⟨report, world', hrun, Nat.lt_of_lt_of_le (Nat.add_lt_add_left hlate _) hlast⟩

end Limit

theorem laterOf_of_le {a b : Instant} (h : b ≤ a) : laterOf a b = a :=
  if_neg (Nat.not_lt_of_le h)

/-- A batch is over by its deadline or by its last submission, whichever is later. It keeps to its
time limit exactly if the last of its commands is submitted within it. -/
theorem run_endsBy (runner : JobRunner) (commands : List Command) (workers : Nat)
    (interval : Duration) (world : World σ)
    (hdeadline : (world.clock.later? runner.batchTimeout).isSome)
    (hworkers : workers ≤ workerLimit) :
    ∃ schedule report world',
      runner.schedule? commands.length workers interval world.clock = some schedule ∧
      runner.run commands workers interval world = (some report, world') ∧
      EndsBy runner commands schedule world
        (laterOf (world.clock.later runner.batchTimeout)
          (lastSubmission commands.length interval world.clock)) report world' ∧
      (EndsBy runner commands schedule world (world.clock.later runner.batchTimeout) report world' ↔
        (commands.length - 1) * interval.nanoseconds ≤ runner.batchTimeout.nanoseconds) := by
  obtain ⟨schedule, hschedule, hcutoff⟩ :=
    exists_schedule hdeadline hworkers commands.length interval
  obtain ⟨hclock, hlast⟩ := clock_run hschedule
  obtain ⟨report, world', hrun, hends⟩ := endsBy_run hschedule
  rw [hrun, hcutoff] at hclock
  rw [hrun] at hlast
  refine ⟨schedule, report, world', hschedule, hrun, (hends _).2 hclock, ?_⟩
  rw [hends]
  constructor
  · intro hover
    exact Nat.le_of_add_le_add_left (Instant.le_trans hlast hover)
  · intro hwithin
    have hle : lastSubmission commands.length interval world.clock ≤
        world.clock.later runner.batchTimeout := Nat.add_le_add_left hwithin _
    rw [laterOf_of_le hle] at hclock
    exact hclock

/-- Two commands a second apart, with two seconds for both, are over within two seconds. -/
theorem exists_batch_within_limit :
    ∃ (schedule : Schedule) (report : BatchReport) (world' : World Unit),
      EndsBy ⟨⟨⟨"http://10.0.0.1:8096/", .integration, "", "", .zero, .zero, .zero⟩, none, none⟩,
        none, .ofSeconds 2⟩ [.named "listUsers", .named "listDomains"] schedule
        (⟨⟨0⟩, fun _ _ => (⟨.zero, none⟩, ()), (), .down, fun _ => 0, 0, []⟩ : World Unit)
        ⟨2000000000⟩ report world' := by
  obtain ⟨schedule, report, world', -, -, -, hends⟩ := run_endsBy
    ⟨⟨⟨"http://10.0.0.1:8096/", .integration, "", "", .zero, .zero, .zero⟩, none, none⟩, none,
      .ofSeconds 2⟩ [.named "listUsers", .named "listDomains"] 2 (.ofSeconds 1)
    (⟨⟨0⟩, fun _ _ => (⟨.zero, none⟩, ()), (), .down, fun _ => 0, 0, []⟩ : World Unit)
    (by decide) (by decide)
  exact ⟨schedule, report, world', hends.2 (by decide)⟩

/-- Three commands two seconds and a half apart, with two seconds for all of them, are not over
within two seconds. -/
theorem exists_batch_beyond_limit :
    ∃ (report : BatchReport) (world' : World Unit),
      run ⟨⟨⟨"http://10.0.0.1:8096/", .integration, "", "", .zero, .zero, .zero⟩, none, none⟩,
        none, .ofSeconds 2⟩ [.named "listUsers", .named "listDomains", .named "listAccounts"] 3
        (.ofMilliseconds 2500)
        (⟨⟨0⟩, fun _ _ => (⟨.zero, none⟩, ()), (), .down, fun _ => 0, 0, []⟩ : World Unit) =
          (some report, world') ∧
      ¬ world'.clock ≤ Instant.later ⟨0⟩ (.ofSeconds 2) := by
  obtain ⟨report, world', hrun, hlate⟩ := @limit_lt_clock_run _
    ⟨⟨⟨"http://10.0.0.1:8096/", .integration, "", "", .zero, .zero, .zero⟩, none, none⟩, none,
      .ofSeconds 2⟩ [.named "listUsers", .named "listDomains", .named "listAccounts"] 3
    (.ofMilliseconds 2500)
    (⟨⟨0⟩, fun _ _ => (⟨.zero, none⟩, ()), (), .down, fun _ => 0, 0, []⟩ : World Unit)
    (by decide) (by decide) (by decide)
  exact ⟨report, world', hrun, Nat.not_le_of_lt hlate⟩

end JobRunner

end ControlPlane
