import ControlPlane.Proofs.PollingTimes

/-!
# Commands in a batch and alone

In a batch commands run beside each other, in any order and at any speed, and their requests come
between each other. If replies depend on the request only, none of this matters: what is left of a
command at any time settles on what the replies make of the command (`Crew.Settled`), so its outcome
tells what the command comes to alone (`accords_of_completes`), and says the same in every other
batch (`sameAs_of_completes`).
-/

namespace ControlPlane

namespace JobRunner

/-- A command in a batch settles on an outcome that is made of what the command settles on. -/
theorem settles_runOne {runner : JobRunner} {reply : Request → Delivery} {horizon : Instant}
    {lapse : Prop} {command : Command} {output : Except ClientError CommandOutput}
    (h : (ExceptT.run (runner.client.executeRaw command)).Settles reply horizon lapse (· = output))
    (index : Nat) :
    (runner.runOne index command).Settles reply horizon lapse (IsMadeOf runner.table output) := by
  refine .readClock fun started _ => Dialogue.settles_bind h ?_
  rintro _ rfl
  exact .readClock fun ended _ => .done ⟨rfl, rfl, rfl⟩

end JobRunner

/-! ## Settled stages -/

/-- Whether work comes to a value with a property, and breaks off only by a lapse. -/
def Stage.Settles {α : Type} (reply : Request → Delivery) (horizon : Instant) (lapse : Prop)
    (P : α → Prop) : Stage α → Prop
  | .upcoming work | .queued work | .running _ work => work.Settles reply horizon lapse P
  | .ended (some a) => P a
  | .ended none => lapse

namespace JobRunner

namespace Crew

variable {σ : Type} {runner : JobRunner} {reply : Request → Delivery} {commands : List Command}

/-- In a steady world every command of a crew settles on what the replies make of it, from now to
any horizon. -/
structure Settled (runner : JobRunner) (reply : Request → Delivery) (commands : List Command)
    (crew : Crew σ) : Prop where
  steady : crew.batch.world.Steady reply
  stages : ∀ horizon, crew.batch.world.clock ≤ horizon →
    ∀ (k : Nat) command (stage : Stage JobOutcome), commands[k]? = some command →
      crew.batch.stages[k]? = some stage →
        stage.Settles reply horizon (¬ runner.client.connection.KeepsTime horizon)
          (IsMadeOf runner.table (runner.client.connection.outputOf reply command))

theorem settled_initial {world : World σ} (schedule : Schedule) (h : world.Steady reply) :
    Settled runner reply commands (initial runner commands schedule world) := by
  refine ⟨h, ?_⟩
  intro horizon _ k command stage hcommand hstage
  rw [initial, Batch.initial, getElem?_stagesFrom, hcommand, Option.map_some,
    Option.some.injEq] at hstage
  exact hstage ▸ settles_runOne (Connection.settles_executeRaw _ reply command horizon) _

/-- A crew stays settled when the work at an index goes on, if that stays settled. -/
theorem settled_put {crew : Crew σ} (h : Settled runner reply commands crew) {k permits : Nat}
    {stage stage' : Stage JobOutcome} {world : World σ} (hk : crew.batch.stages[k]? = some stage)
    (hclock : crew.batch.world.clock ≤ world.clock) (hsteady : world.Steady reply)
    (hstage : ∀ horizon lapse P, crew.batch.world.clock ≤ horizon →
      stage.Settles reply horizon lapse P → stage'.Settles reply horizon lapse P) :
    Settled runner reply commands { crew.put k stage' world with permits } := by
  refine ⟨hsteady, ?_⟩
  intro horizon hhorizon j command other hcommand hother
  have hnow := Instant.le_trans hclock hhorizon
  obtain ⟨hlt, -⟩ := List.getElem?_eq_some_iff.1 hk
  simp only [put] at hother
  by_cases hkj : k = j
  · subst hkj
    rw [List.getElem?_set_self hlt, Option.some.injEq] at hother
    exact hother ▸ hstage horizon _ _ hnow (h.stages horizon hnow k command stage hcommand hk)
  · rw [List.getElem?_set_ne hkj] at hother
    exact h.stages horizon hnow j command other hcommand hother

theorem settled_of_step {schedule : Schedule} {event : Event} {crew crew' : Crew σ}
    (hstep : Step schedule crew event crew') (hunbroken : ∀ k, event ≠ .breaksOff k)
    (h : Settled runner reply commands crew) : Settled runner reply commands crew' := by
  -- work that goes on is the rest of what it was
  have goesOn : ∀ {work : Dialogue JobOutcome} {progress : Dialogue.Progress JobOutcome}
      {world : World σ}, work.advance crew.batch.world = (progress, world) →
      crew.batch.world.clock ≤ world.clock ∧ world.Steady reply ∧
        ∀ horizon lapse P, crew.batch.world.clock ≤ horizon →
          work.Settles reply horizon lapse P → progress.Settles reply horizon lapse P := by
    intro work progress world hadvance
    have hclock := Dialogue.clock_advance work crew.batch.world
    have hsteady := Dialogue.gives_advance work h.steady
    rw [hadvance] at hclock hsteady
    refine ⟨Nat.le_of_eq (congrArg _ hclock.symm), hsteady, ?_⟩
    intro horizon lapse P hhorizon hwork
    have hsettles := Dialogue.settles_advance hwork h.steady hhorizon
    rw [hadvance] at hsettles
    exact hsettles
  cases hstep with
  | passes span =>
    refine ⟨h.steady.congr rfl rfl, ?_⟩
    intro horizon hhorizon
    exact h.stages horizon (Instant.le_trans (Instant.le_later _ _) hhorizon)
  | submits hk _ =>
    exact settled_put h hk (Instant.le_refl _) h.steady fun _ _ _ _ hwork => hwork
  | starts hk _ =>
    exact settled_put h hk (Instant.le_refl _) h.steady fun _ _ _ _ hwork => hwork
  | resumes hk _ hadvance =>
    obtain ⟨hclock, hsteady, hwork⟩ := goesOn hadvance
    exact settled_put h hk hclock hsteady hwork
  | @ends k wake work result world hk _ hadvance =>
    obtain ⟨hclock, hsteady, hwork⟩ := goesOn hadvance
    refine settled_put h hk hclock hsteady ?_
    intro horizon lapse P hhorizon hbefore
    have hafter := hwork horizon lapse P hhorizon hbefore
    cases result with
    | some outcome => exact hafter
    | none => exact hafter
  | breaksOff _ => exact absurd rfl (hunbroken _)
  | joins _ _ _ => exact ⟨h.steady, h.stages⟩

theorem settled_of_runs {schedule : Schedule} {world : World σ} {events : List Event}
    {crew : Crew σ} (hsteady : world.Steady reply)
    (h : Runs schedule (initial runner commands schedule world) events crew)
    (hunbroken : Unbroken events) : Settled runner reply commands crew := by
  induction h with
  | nil => exact settled_initial schedule hsteady
  | cons _ hstep ih =>
    refine settled_of_step hstep ?_ (ih fun k hk => hunbroken k (List.mem_cons_of_mem _ hk))
    rintro k rfl
    exact hunbroken k (List.mem_cons_self ..)

/-- When a settled crew has come to its end, a command has an outcome that is made of what the
command comes to, or broke off because something that waiting for its job counts could not be
represented. -/
theorem ended_of_settled {schedule : Schedule} {crew : Crew σ}
    (h : Settled runner reply commands crew) (hover : crew.batch.IsOver schedule false) {k : Nat}
    {command : Command} {stage : Stage JobOutcome} (hcommand : commands[k]? = some command)
    (hk : crew.batch.stages[k]? = some stage) :
    (∃ outcome, CameTo crew.batch.stages k outcome ∧
      IsMadeOf runner.table (runner.client.connection.outputOf reply command) outcome) ∨
    stage = .ended none ∧ ¬ runner.client.connection.KeepsTime crew.batch.world.clock := by
  have hended : hasEnded stage = true := hover.decided stage (List.mem_of_getElem? hk)
  have hsettles := h.stages _ (Instant.le_refl _) k command stage hcommand hk
  cases stage with
  | ended result =>
    cases result with
    | some outcome => exact .inl ⟨outcome, hk, hsettles⟩
    | none => exact .inr ⟨rfl, hsettles⟩
  | upcoming work => exact absurd hended (by simp [hasEnded])
  | queued work => exact absurd hended (by simp [hasEnded])
  | running wake work => exact absurd hended (by simp [hasEnded])

end Crew

/-! ## Batches that run to their end -/

section Batches

variable {σ : Type} {runner : JobRunner} {reply : Request → Delivery} {commands : List Command}
  {workers : Nat} {interval : Duration} {world : World σ} {report : BatchReport}

/-- The report on a batch that came to its end, in whichever order: nothing was cut off, and every
command has an outcome. -/
def Completes (runner : JobRunner) (commands : List Command) (workers : Nat) (interval : Duration)
    (world : World σ) (report : BatchReport) : Prop :=
  ∃ (schedule : Schedule) (events : List Event) (crew : Crew σ),
    runner.schedule? commands.length workers interval world.clock = some schedule ∧
    Crew.Runs schedule (.initial runner commands schedule world) events crew ∧
    Crew.Unbroken events ∧ crew.batch.IsOver schedule false ∧
    (∀ k : Nat, crew.batch.stages[k]? ≠ some (Stage.ended none)) ∧
    report = crew.batch.report world.clock commands false

/-- Running a batch comes to its end: nothing is cut off, and all that waiting for a job counts can
be represented all along. -/
def InTime (runner : JobRunner) (commands : List Command) (workers : Nat) (interval : Duration)
    (world : World σ) : Prop :=
  (∃ schedule, runner.schedule? commands.length workers interval world.clock = some schedule ∧
    isCutShort (schedule.drive (runner.stagesFrom 0 commands) world).1 = false) ∧
  runner.client.connection.KeepsTime (runner.run commands workers interval world).2.clock

theorem outcome_of_completes (hsteady : world.Steady reply)
    (h : runner.Completes commands workers interval world report) :
    report.outcomes.length = commands.length ∧ ∀ (k : Nat) command (outcome : JobOutcome),
      commands[k]? = some command → report.outcomes[k]? = some outcome →
        IsOutcomeOf commands k outcome ∧
        IsMadeOf runner.table (runner.client.connection.outputOf reply command) outcome := by
  obtain ⟨schedule, events, crew, -, hruns, hunbroken, hover, hwhole, rfl⟩ := h
  have htracked := Batch.tracked_of_history (Crew.history_of_runs hruns)
    (Batch.tracked_initial runner commands world)
  have hfaithful := Batch.isFaithful_of_isOver htracked hover world.clock
  have hsettled := Crew.settled_of_runs hsteady hruns hunbroken
  refine ⟨hfaithful.length, ?_⟩
  intro k command outcome hcommand houtcome
  refine ⟨hfaithful.place k outcome houtcome, ?_⟩
  obtain ⟨hlt, -⟩ := List.getElem?_eq_some_iff.1 hcommand
  rw [← htracked.length_stages] at hlt
  have hk := List.getElem?_eq_getElem hlt
  rcases Crew.ended_of_settled hsettled hover hcommand hk with ⟨own, hown, hmade⟩ | ⟨hnone, -⟩
  · have hkept := hfaithful.kept k own hown
    rw [houtcome, Option.some.injEq] at hkept
    exact hkept ▸ hmade
  · exact absurd (hk.trans (congrArg some hnone)) (hwhole k)

/-- A batch that came to its end completes if all that waiting for a job counts can be represented
then. -/
theorem completes_of_keepsTime {schedule : Schedule} {events : List Event} {crew : Crew σ}
    (hsteady : world.Steady reply)
    (hschedule : runner.schedule? commands.length workers interval world.clock = some schedule)
    (hruns : Crew.Runs schedule (.initial runner commands schedule world) events crew)
    (hunbroken : Crew.Unbroken events) (hover : crew.batch.IsOver schedule false)
    (htime : runner.client.connection.KeepsTime crew.batch.world.clock) :
    runner.Completes commands workers interval world
      (crew.batch.report world.clock commands false) := by
  have htracked := Batch.tracked_of_history (Crew.history_of_runs hruns)
    (Batch.tracked_initial runner commands world)
  have hsettled := Crew.settled_of_runs hsteady hruns hunbroken
  refine ⟨schedule, events, crew, hschedule, hruns, hunbroken, hover, ?_, rfl⟩
  intro k hk
  obtain ⟨hlt, -⟩ := List.getElem?_eq_some_iff.1 hk
  rw [htracked.length_stages] at hlt
  rcases Crew.ended_of_settled hsettled hover (List.getElem?_eq_getElem hlt) hk with
    ⟨own, hown, -⟩ | ⟨-, hlapse⟩
  · rw [CameTo, hk] at hown
    exact absurd hown (by simp)
  · exact hlapse htime

/-- A batch that is run in time reports what it came to in the end. -/
theorem exists_completes_of_inTime (hsteady : world.Steady reply)
    (h : runner.InTime commands workers interval world) :
    ∃ report, (runner.run commands workers interval world).1 = some report ∧
      runner.Completes commands workers interval world report := by
  obtain ⟨⟨schedule, hschedule, hcut⟩, htime⟩ := h
  obtain ⟨batch, ⟨events, crew, hruns, hunbroken, rfl⟩, hstages, hover, hrun⟩ :=
    Crew.exists_reaches_of_run hschedule
  rw [hstages, hcut] at hover hrun
  rw [hrun] at htime ⊢
  exact ⟨_, rfl, completes_of_keepsTime hsteady hschedule hruns hunbroken hover htime⟩

/-- What a command comes to alone, in a steady world. -/
theorem run_executeRaw_of_steady (client : Client) (command : Command)
    (hsteady : world.Steady reply) :
    (∀ output, ((client.executeRaw command).run world).1 = some output →
      output = client.connection.outputOf reply command) ∧
    (client.connection.KeepsTime ((client.executeRaw command).run world).2.clock →
      ((client.executeRaw command).run world).1 =
        some (client.connection.outputOf reply command)) := by
  generalize hrun : (client.executeRaw command).run world = ending
  obtain ⟨result, world'⟩ := ending
  have hsettles := Connection.settles_executeRaw client.connection reply command world'.clock
  have hends := Dialogue.action_run_of_settles hsettles hsteady hrun (Instant.le_refl _)
  exact ⟨hends.1, fun htime => hends.2 (not_not_intro htime)⟩

end Batches

/-- Whether a report says of every command what the command comes to when it is run alone, in any
world where replies are the same. -/
structure Accords (runner : JobRunner) (reply : Request → Delivery) (commands : List Command)
    (report : BatchReport) : Prop where
  length : report.outcomes.length = commands.length
  own : ∀ k outcome, report.outcomes[k]? = some outcome → IsOutcomeOf commands k outcome
  alone : ∀ (k : Nat) command outcome, commands[k]? = some command →
    report.outcomes[k]? = some outcome → ∀ (τ : Type) (world : World τ), world.Steady reply →
      ∀ output, ((runner.client.executeRaw command).run world).1 = some output →
        outcome.Tells runner.table output
  returns : ∀ command ∈ commands, ∀ (τ : Type) (world : World τ), world.Steady reply →
    runner.client.connection.KeepsTime ((runner.client.executeRaw command).run world).2.clock →
      ∃ output, ((runner.client.executeRaw command).run world).1 = some output

section Agreement

variable {σ τ : Type} {runner : JobRunner} {reply : Request → Delivery}
  {commands commands' : List Command} {workers workers' : Nat} {interval interval' : Duration}
  {world : World σ} {world' : World τ} {report report' : BatchReport}

theorem accords_of_completes (hsteady : world.Steady reply)
    (h : runner.Completes commands workers interval world report) :
    runner.Accords reply commands report := by
  obtain ⟨hlength, houtcomes⟩ := outcome_of_completes hsteady h
  refine ⟨hlength, ?_, ?_, ?_⟩
  · intro k outcome houtcome
    obtain ⟨hlt, -⟩ := List.getElem?_eq_some_iff.1 houtcome
    rw [hlength] at hlt
    exact (houtcomes k _ outcome (List.getElem?_eq_getElem hlt) houtcome).1
  · intro k command outcome hcommand houtcome _ alone halone output houtput
    rw [(run_executeRaw_of_steady runner.client command halone).1 output houtput]
    exact (houtcomes k command outcome hcommand houtcome).2.tells
  · intro command _ _ alone halone htime
    exact ⟨_, (run_executeRaw_of_steady runner.client command halone).2 htime⟩

/-- One command has the same outcome in any two batches. -/
theorem sameAs_of_completes (hsteady : world.Steady reply) (hsteady' : world'.Steady reply)
    (h : runner.Completes commands workers interval world report)
    (h' : runner.Completes commands' workers' interval' world' report') {j k : Nat}
    {command : Command} {outcome outcome' : JobOutcome} (hj : commands[j]? = some command)
    (hk : commands'[k]? = some command) (houtcome : report.outcomes[j]? = some outcome)
    (houtcome' : report'.outcomes[k]? = some outcome') : outcome.SameAs outcome' := by
  obtain ⟨⟨-, _, hcommand, hname⟩, hmade⟩ :=
    (outcome_of_completes hsteady h).2 j command outcome hj houtcome
  obtain ⟨⟨-, _, hcommand', hname'⟩, hmade'⟩ :=
    (outcome_of_completes hsteady' h').2 k command outcome' hk houtcome'
  rw [hj, Option.some.injEq] at hcommand
  rw [hk, Option.some.injEq] at hcommand'
  subst hcommand hcommand'
  exact hmade.sameAs hmade' (hname.trans hname'.symm)

end Agreement

/-- A batch that is submitted all at once, with a worker for every command, is run in time if the
longest time that one of its commands can take is within the time limit. -/
theorem inTime_of_answersWithin {σ : Type} {runner : JobRunner} {commands : List Command}
    {workers : Nat} {world : World σ} {answers : Request → Delivery → Duration → Prop}
    {request question : Duration} (hgives : world.Gives answers)
    (hanswers : ∀ command ∈ commands,
      runner.client.connection.AnswersWithin command answers request question)
    (hlongest : ∀ command ∈ commands,
      runner.client.connection.longest command request question ≤ runner.batchTimeout)
    (hcount : commands.length ≤ workers) (hworkers : workers ≤ workerLimit)
    (hdeadline : (world.clock.later? runner.batchTimeout).isSome)
    (htime : runner.client.connection.KeepsTime (world.clock.later runner.batchTimeout)) :
    runner.InTime commands workers .zero world := by
  obtain ⟨schedule, hschedule, -⟩ := exists_schedule hdeadline hworkers commands.length .zero
  have hcutoff := (hasRoom_of_schedule? hschedule hcount).cutoff
  have hlimit := (Instant.later_of_later? (times_of_schedule? hschedule).2).symm
  have hensures : ∀ (k : Nat) command, commands[k]? = some command →
      (ExceptT.run (runner.client.executeRaw command)).Ensures answers
        (fun t _ => t ≤ schedule.deadline) world.clock := by
    intro k command hcommand
    have hmem := List.mem_of_getElem? hcommand
    have hwithin : world.clock.later (runner.client.connection.longest command request question) ≤
        world.clock.later runner.batchTimeout := Nat.add_le_add_left (hlongest command hmem) _
    have hrequest : world.clock.later request ≤ world.clock.later runner.batchTimeout :=
      Instant.le_trans (Connection.later_request_le_longest _) hwithin
    refine Dialogue.ensures_mono (Connection.ensures_executeRaw (hanswers command hmem)
      fun _ => Connection.hasTime_of_le htime.deadline hrequest) ?_
    intro t _ ht
    rw [hlimit]
    exact Instant.le_trans ht.le hwithin
  refine ⟨⟨schedule, hschedule, ?_⟩, ?_⟩
  · exact isCutShort_drive_of_ensures hschedule hcount hgives hensures fun _ _ _ ht => ht
  · have hclock := (clock_run hschedule).1
    rw [hcutoff, hlimit] at hclock
    exact Connection.keepsTime_of_le htime hclock

/-- In a world where replies depend on the request only, a batch gives each command the outcome that
tells what the command comes to alone: whatever the number of workers, the interval, the other
commands and the order in which they end, and whichever way the batch was submitted. A batch that
comes to its end is such a batch, if all that waiting for a job counts can still be represented
then. -/
theorem batch_agreesWithLoneCommands {σ τ : Type} (runner : JobRunner)
    (reply : Request → Delivery) (commands : List Command) (world : World σ) (other : World τ)
    (hsteady : world.Steady reply) (hother : other.Steady reply) :
    (∀ workers interval report, runner.Completes commands workers interval world report →
      runner.Accords reply commands report) ∧
    (∀ commands' workers workers' interval interval' report report',
      runner.Completes commands workers interval world report →
      runner.Completes commands' workers' interval' other report' →
      ∀ (j k : Nat) command outcome outcome', commands[j]? = some command →
        commands'[k]? = some command → report.outcomes[j]? = some outcome →
          report'.outcomes[k]? = some outcome' → outcome.SameAs outcome') ∧
    (∀ workers interval schedule events (crew : Crew σ),
      runner.schedule? commands.length workers interval world.clock = some schedule →
      Crew.Runs schedule (.initial runner commands schedule world) events crew →
      Crew.Unbroken events → crew.batch.IsOver schedule false →
      runner.client.connection.KeepsTime crew.batch.world.clock →
      runner.Completes commands workers interval world
        (crew.batch.report world.clock commands false)) ∧
    ∀ workers workers' interval, runner.InTime commands workers .zero world →
      runner.InTime commands workers' interval other →
      ∃ all spaced, (runner.submitAll commands workers world).1 = some all ∧
        (runner.run commands workers' interval other).1 = some spaced ∧
        (∀ command times, commands = List.replicate times command →
          (runner.submitTimes command times workers' interval other).1 = some spaced) ∧
        runner.Completes commands workers .zero world all ∧
        runner.Completes commands workers' interval other spaced ∧
        ∀ (k : Nat) outcome outcome', all.outcomes[k]? = some outcome →
          spaced.outcomes[k]? = some outcome' → outcome.SameAs outcome' := by
  refine ⟨?_, ?_, ?_, ?_⟩
  · intro workers interval report h
    exact accords_of_completes hsteady h
  · intro commands' workers workers' interval interval' report report' h h' j k command outcome
      outcome' hj hk
    exact sameAs_of_completes hsteady hother h h' hj hk
  · intro workers interval schedule events crew hschedule hruns hunbroken hover htime
    exact completes_of_keepsTime hsteady hschedule hruns hunbroken hover htime
  · intro workers workers' interval hinTime hinTime'
    obtain ⟨all, hall, hcompletes⟩ := exists_completes_of_inTime hsteady hinTime
    obtain ⟨spaced, hspaced, hcompletes'⟩ := exists_completes_of_inTime hother hinTime'
    refine ⟨all, spaced, hall, hspaced, ?_, hcompletes, hcompletes', ?_⟩
    · rintro command times rfl
      exact hspaced
    · intro k outcome outcome' houtcome houtcome'
      obtain ⟨hlt, -⟩ := List.getElem?_eq_some_iff.1 houtcome
      rw [(accords_of_completes hsteady hcompletes).length] at hlt
      have hcommand := List.getElem?_eq_getElem hlt
      exact sameAs_of_completes hsteady hother hcompletes hcompletes' hcommand hcommand houtcome
        houtcome'

/-! ### A batch with jobs -/

section JobBatch

open Connection

/-- What becomes of a request to a server that takes five milliseconds to say the same. -/
def promptReply (reply : String) (request : Request) : Delivery :=
  if request.patience < .ofMilliseconds 5 then .late else .reply 200 reply

theorem gives_promptWorld (reply : String) (start : Instant) :
    ({ promptWorld reply with clock := start } : World Unit).Gives fun request delivery span =>
      delivery = promptReply reply request ∧ span ≤ .ofMilliseconds 5 := by
  intro request state
  by_cases hlate : request.patience < .ofMilliseconds 5
  · obtain ⟨hdelivery, hspan⟩ := @World.deliver_of_late _ request
      { promptWorld reply with clock := start, state } rfl hlate
    exact ⟨hdelivery.trans (if_pos hlate).symm, hspan ▸ Nat.le_of_lt hlate⟩
  · obtain ⟨hdelivery, hspan⟩ := @World.deliver_of_reply _ request
      { promptWorld reply with clock := start, state } (.ofMilliseconds 5) 200 reply () rfl rfl
      (Nat.le_of_not_lt hlate)
    exact ⟨hdelivery.trans (if_neg hlate).symm, hspan ▸ Nat.le_refl _⟩

/-- A runner with a minute and a half for a batch. -/
def minuteRunner : JobRunner := ⟨⟨minuteConnection (.ofSeconds 1), none, none⟩, none, .ofSeconds 90⟩

/-- A command that starts no job between two that do. -/
def mixedCommands : List Command :=
  [(Command.named "deployVirtualMachine").asynchronous, .named "listUsers",
    (Command.named "rebootVirtualMachine").asynchronous]

theorem inTime_mixedCommands {workers : Nat} {start : Instant} (hcount : 3 ≤ workers)
    (hworkers : workers ≤ workerLimit) (hdeadline : (start.later? (.ofSeconds 90)).isSome)
    (htime : (minuteConnection (.ofSeconds 1)).KeepsTime (start.later (.ofSeconds 90))) :
    minuteRunner.InTime mixedCommands workers .zero
      ({ promptWorld (progressReply "1") with clock := start } : World Unit) := by
  refine @inTime_of_answersWithin _ _ _ _ _ _ (.ofMilliseconds 5) (.ofMilliseconds 5)
    (gives_promptWorld _ start) ?_ ?_ hcount hworkers hdeadline htime
  · intro command _
    exact ⟨fun _ _ _ _ h => h.2, fun _ _ _ _ _ h => h.2⟩
  · intro command hcommand
    simp only [mixedCommands, List.mem_cons, List.not_mem_nil, or_false] at hcommand
    rcases hcommand with rfl | rfl | rfl
    · decide
    · decide
    · decide

/-- What the server says, read. -/
def succeededBody : Json := .obj [("jobid", .str "j-1"), ("jobstatus", .num (.whole 1))]

theorem bodyOf_promptReply {command : Command}
    (hread : Envelope.decode command.name 200 (progressReply "1") = .ok succeededBody) :
    (minuteConnection (.ofSeconds 1)).bodyOf (promptReply (progressReply "1")) command =
      .ok succeededBody := by
  obtain ⟨url, hurl⟩ : ∃ url, Url.parse ((minuteConnection (.ofSeconds 1)).urlText command) =
      .ok url :=
    Url.exists_parse_of_parse
      (show Url.parse ("http://10.0.0.1:8096/" ++ "?" ++ "") = .ok _ from rfl) _
  have hprompt : promptReply (progressReply "1") ⟨url, .ofSeconds 30⟩ =
      .reply 200 (progressReply "1") :=
    if_neg (show ¬ Duration.ofSeconds 30 < .ofMilliseconds 5 by decide)
  simp only [bodyOf, hurl]
  exact (congrArg (receive command url) hprompt).trans hread

/-- The jobs of these commands have succeeded when they are first asked about. -/
theorem outputOf_mixedCommands {command : Command} (hcommand : command ∈ mixedCommands) :
    ∃ body, (minuteConnection (.ofSeconds 1)).outputOf (promptReply (progressReply "1")) command =
      .ok ⟨if command.isAsync then some "j-1" else none, body⟩ := by
  have hjob : (minuteConnection (.ofSeconds 1)).jobOf (promptReply (progressReply "1")) "j-1" =
      .ok (jobAt .succeeded) := by
    rw [jobOf, bodyOf_promptReply rfl]
    rfl
  have hbody : (minuteConnection (.ofSeconds 1)).bodyOf (promptReply (progressReply "1")) command =
      .ok succeededBody := by
    refine bodyOf_promptReply ?_
    simp only [mixedCommands, List.mem_cons, List.not_mem_nil, or_false] at hcommand
    rcases hcommand with rfl | rfl | rfl
    · rfl
    · rfl
    · rfl
  rw [outputOf, hbody]
  cases hasync : command.isAsync with
  | false => exact ⟨_, rfl⟩
  | true =>
    have hstarted : startedJob? succeededBody = some "j-1" := rfl
    simp only [Bool.not_true, Bool.false_eq_true, if_false, if_true, hstarted, hjob, verdict]
    exact ⟨_, rfl⟩

/-- Three commands at once, of which two start a job: they are run in time, the outcomes of two name
their jobs, and at another time and with other workers all of them are the same. -/
theorem exists_agreeing_batches :
    ∃ all spaced : BatchReport,
      (minuteRunner.submitAll mixedCommands 3 (promptWorld (progressReply "1"))).1 = some all ∧
      (minuteRunner.run mixedCommands 5 .zero
        { promptWorld (progressReply "1") with clock := ⟨7⟩ }).1 = some spaced ∧
      all.outcomes.length = 3 ∧
      (∀ (k : Nat) outcome, all.outcomes[k]? = some outcome →
        outcome.jobId = if k = 1 then none else some "j-1") ∧
      ∀ (k : Nat) outcome outcome', all.outcomes[k]? = some outcome →
        spaced.outcomes[k]? = some outcome' → outcome.SameAs outcome' := by
  obtain ⟨haccords, -, -, hsubmit⟩ := batch_agreesWithLoneCommands minuteRunner
    (promptReply (progressReply "1")) mixedCommands (promptWorld (progressReply "1"))
    ({ promptWorld (progressReply "1") with clock := ⟨7⟩ } : World Unit)
    (fun request state => (gives_promptWorld _ _ request state).1)
    (fun request state => (gives_promptWorld _ _ request state).1)
  obtain ⟨all, spaced, hall, hspaced, -, hcompletes, -, hsame⟩ := hsubmit 3 5 .zero
    (inTime_mixedCommands (by decide) (by decide) (by decide) (by decide))
    (inTime_mixedCommands (by decide) (by decide) (by decide) (by decide))
  have hlength := (haccords 3 .zero all hcompletes).length
  refine ⟨all, spaced, hall, hspaced, hlength, ?_, hsame⟩
  intro k outcome houtcome
  obtain ⟨hlt, -⟩ := List.getElem?_eq_some_iff.1 houtcome
  rw [hlength] at hlt
  have hcommand : ∀ command, mixedCommands[k]? = some command →
      outcome.jobId = if command.isAsync then some "j-1" else none := by
    intro command hcommand
    obtain ⟨-, hmade⟩ := (outcome_of_completes
      (fun request state => (gives_promptWorld _ _ request state).1) hcompletes).2 k command
        outcome hcommand houtcome
    obtain ⟨body, hbody⟩ := outputOf_mixedCommands (List.mem_of_getElem? hcommand)
    rw [hmade.jobId]
    exact congrArg (fun output => (conclude output).1) hbody
  match k, hlt with
  | 0, _ => exact hcommand _ rfl
  | 1, _ => exact hcommand _ rfl
  | 2, _ => exact hcommand _ rfl

end JobBatch

end JobRunner

end ControlPlane
