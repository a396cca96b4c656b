import ControlPlane.Batch.Runner
import ControlPlane.Proofs.Pools

/-!
# Reports on batches

The workers of a batch end in any order. As they do they are joined, one at a time and each once,
and what a worker came to goes into the slot that its outcome names. A batch is over when all have
been joined, or when the time is up and none is left that has ended and was not joined.

Whatever the order (`Batch.History`), slots and workers stay together (`Batch.Tracked`): a slot
holds what the worker of its command came to if that one has been joined, and nothing otherwise. So
the report puts every outcome in its place, and says of the other commands that there is none
(`isFaithful_of_isOver`). What `JobRunner.run` reports is the end of one of these histories.
-/

namespace ControlPlane

namespace JobRunner

variable {σ : Type}

/-- Whether an outcome is one of the command at an index. -/
def IsOutcomeOf (commands : List Command) (k : Nat) (outcome : JobOutcome) : Prop :=
  outcome.index = k ∧ ∃ command, commands[k]? = some command ∧ outcome.command = command.name

/-- A worker ends with an outcome of its own command. -/
theorem yields_runOne (runner : JobRunner) {commands : List Command} {k : Nat} {command : Command}
    (h : commands[k]? = some command) :
    (runner.runOne k command).Yields (IsOutcomeOf commands k) := by
  refine .readClock fun started => Dialogue.yields_bind _ fun result => .readClock fun ended => ?_
  exact .done ⟨rfl, command, h, rfl⟩

/-! ## Histories of a batch -/

/-- Where a batch stands. -/
structure Batch (σ : Type) where
  stages : List (Stage JobOutcome)
  world : World σ
  /-- The indices of the workers that have been joined. -/
  joined : List Nat
  slots : Slots

namespace Batch

/-- A batch before anything has happened. -/
def initial (runner : JobRunner) (commands : List Command) (world : World σ) : Batch σ where
  stages := runner.stagesFrom 0 commands
  world
  joined := []
  slots := emptySlots commands.length

/-- Whether all commands have been submitted. -/
def AllSubmitted (stages : List (Stage JobOutcome)) : Prop :=
  ∀ work, Stage.upcoming work ∉ stages

/-- One thing that can happen in a batch. -/
inductive Step (schedule : Schedule) : Batch σ → Batch σ → Prop
  /-- Something happens among the workers. -/
  | works {batch : Batch σ} {pool : List (Stage JobOutcome) × World σ}
    (h : schedule.Happens (batch.stages, batch.world) pool) :
    Step schedule batch { batch with stages := pool.1, world := pool.2 }
  /-- A worker that has ended is joined. -/
  | joins {batch : Batch σ} {k : Nat} {result : Option JobOutcome}
    (hsubmitted : AllSubmitted batch.stages) (hk : batch.stages[k]? = some (.ended result))
    (hnew : k ∉ batch.joined) :
    Step schedule batch
      { batch with joined := k :: batch.joined, slots := takeIn batch.slots result }

/-- What can happen in the course of time. -/
abbrev History (schedule : Schedule) : Batch σ → Batch σ → Prop :=
  Relation.ReflTransGen (Step schedule)

/-- Whether a batch is over: what has ended is joined, and either that is all or the time is up. -/
structure IsOver (schedule : Schedule) (timedOut : Bool) (batch : Batch σ) : Prop where
  submitted : AllSubmitted batch.stages
  drained : ∀ k result, batch.stages[k]? = some (.ended result) → k ∈ batch.joined
  decided : if timedOut then
      schedule.cutoff ≤ batch.world.clock ∧ ∃ stage ∈ batch.stages, hasEnded stage = false
    else ∀ stage ∈ batch.stages, hasEnded stage = true

/-! ## Slots and workers -/

/-- The slots of a batch hold what its workers came to, as far as these have been joined. -/
structure Tracked (commands : List Command) (batch : Batch σ) : Prop where
  length_stages : batch.stages.length = commands.length
  length_slots : batch.slots.length = commands.length
  own : ∀ k (stage : Stage JobOutcome), batch.stages[k]? = some stage →
    stage.Yields (IsOutcomeOf commands k)
  taken : ∀ k ∈ batch.joined, ∃ result, batch.stages[k]? = some (.ended result) ∧
    batch.slots[k]? = some result
  empty : ∀ k, k < commands.length → k ∉ batch.joined → batch.slots[k]? = some none

theorem tracked_initial (runner : JobRunner) (commands : List Command) (world : World σ) :
    Tracked commands (initial runner commands world) := by
  refine ⟨length_stagesFrom runner 0 commands, List.length_replicate .., ?_, ?_, ?_⟩
  · intro k stage hk
    rw [initial, getElem?_stagesFrom, Option.map_eq_some_iff] at hk
    obtain ⟨command, hcommand, rfl⟩ := hk
    rw [Nat.zero_add]
    exact yields_runOne runner hcommand
  · intro k hk
    exact absurd hk (by simp [initial])
  · intro k hk _
    simp [initial, emptySlots, hk]

/-- What a worker came to goes into the slot of its command, which was empty. -/
theorem getElem?_takeIn {slots : Slots} {result : Option JobOutcome} {k : Nat}
    (hempty : slots[k]? = some none) (hindex : ∀ outcome, result = some outcome →
      outcome.index = k) (j : Nat) :
    (takeIn slots result)[j]? = if j = k then some result else slots[j]? := by
  cases result with
  | none =>
    rw [takeIn]
    split
    · rename_i hjk
      rw [hjk, hempty]
    · rfl
  | some outcome =>
    obtain ⟨hlt, -⟩ := List.getElem?_eq_some_iff.1 hempty
    rw [takeIn, hindex outcome rfl]
    split
    · rename_i hjk
      rw [hjk, List.getElem?_set_self hlt]
    · rename_i hjk
      rw [List.getElem?_set_ne (Ne.symm hjk)]

theorem tracked_of_step {schedule : Schedule} {commands : List Command} {batch batch' : Batch σ}
    (h : Step schedule batch batch') (htracked : Tracked commands batch) :
    Tracked commands batch' := by
  obtain ⟨hstages, hslots, hown, htaken, hempty⟩ := htracked
  cases h with
  | works hpool =>
    refine ⟨?_, hslots, Schedule.yields_of_happens hpool hown, ?_, hempty⟩
    · exact (Schedule.length_of_happens hpool).trans hstages
    · intro k hk
      obtain ⟨result, hended, hslot⟩ := htaken k hk
      exact ⟨result, Schedule.ended_of_happens hpool hended, hslot⟩
  | @joins k result hsubmitted hk hnew =>
    obtain ⟨hlt, -⟩ := List.getElem?_eq_some_iff.1 hk
    have hslot := getElem?_takeIn (hempty k (hstages ▸ hlt) hnew)
      fun outcome hresult => (hown k _ hk outcome hresult).1
    refine ⟨hstages, (length_takeIn _ _).trans hslots, hown, ?_, ?_⟩
    · intro j hj
      simp only [hslot]
      rcases List.mem_cons.1 hj with rfl | hj
      · exact ⟨result, hk, by rw [if_pos rfl]⟩
      · have hjk : j ≠ k := fun heq => hnew (heq ▸ hj)
        rw [if_neg hjk]
        exact htaken j hj
    · intro j hlt hj
      rw [List.mem_cons, not_or] at hj
      simp only [hslot]
      rw [if_neg hj.1]
      exact hempty j hlt hj.2

theorem tracked_of_history {schedule : Schedule} {commands : List Command} {batch batch' : Batch σ}
    (h : History schedule batch batch') (htracked : Tracked commands batch) :
    Tracked commands batch' := by
  induction h with
  | refl => exact htracked
  | tail _ hlast ih => exact tracked_of_step hlast ih

/-! ## Faithful reports -/

/-- The report on a batch that is over. -/
def report (start : Instant) (commands : List Command) (timedOut : Bool) (batch : Batch σ) :
    BatchReport :=
  reportOf start batch.world.clock timedOut commands batch.slots

end Batch

/-- Whether a worker came to an outcome. -/
def CameTo (stages : List (Stage JobOutcome)) (k : Nat) (outcome : JobOutcome) : Prop :=
  stages[k]? = some (Stage.ended (some outcome))

/-- Whether a report says of the commands of a batch what its workers came to. -/
structure IsFaithful (commands : List Command) (stages : List (Stage JobOutcome)) (timedOut : Bool)
    (report : BatchReport) : Prop where
  length : report.outcomes.length = commands.length
  place : ∀ k outcome, report.outcomes[k]? = some outcome → IsOutcomeOf commands k outcome
  kept : ∀ k outcome, CameTo stages k outcome → report.outcomes[k]? = some outcome
  others : ∀ k (outcome : JobOutcome), report.outcomes[k]? = some outcome →
    (∀ own, ¬ CameTo stages k own) →
      outcome.jobId = none ∧ outcome.record = none ∧
        outcome.result = if timedOut then .timedOut else .failed JobOutcome.noResult
  counted : report.succeeded + report.failed.length = commands.length
  failedInOrder : report.failed.Pairwise fun a b => a.index < b.index
  allSucceeded : report.allSucceeded = true ↔ report.failed = []

namespace Batch

/-- The slot of a command in a batch that is over. -/
theorem slot_of_isOver {schedule : Schedule} {timedOut : Bool} {commands : List Command}
    {batch : Batch σ} (htracked : Tracked commands batch) (hover : batch.IsOver schedule timedOut)
    {k : Nat} (hk : k < commands.length) :
    (∃ outcome, CameTo batch.stages k outcome ∧ batch.slots[k]? = some (some outcome)) ∨
      (∀ own, ¬ CameTo batch.stages k own) ∧ batch.slots[k]? = some none := by
  by_cases hjoined : k ∈ batch.joined
  · obtain ⟨result, hended, hslot⟩ := htracked.taken k hjoined
    cases result with
    | some outcome => exact Or.inl ⟨outcome, hended, hslot⟩
    | none =>
      refine Or.inr ⟨?_, hslot⟩
      intro own hown
      rw [CameTo, hended] at hown
      exact absurd hown (by simp)
  · refine Or.inr ⟨?_, htracked.empty k hk hjoined⟩
    intro own hown
    exact hjoined (hover.drained k _ hown)

theorem isFaithful_of_isOver {schedule : Schedule} {timedOut : Bool} {commands : List Command}
    {batch : Batch σ} (htracked : Tracked commands batch) (hover : batch.IsOver schedule timedOut)
    (start : Instant) :
    IsFaithful commands batch.stages timedOut (batch.report start commands timedOut) := by
  have hlength : (batch.report start commands timedOut).outcomes.length = commands.length :=
    length_outcomesFrom _ _ _ _ htracked.length_slots
  -- the outcome in each place, by what is in the slot
  have hplaces : ∀ k (hk : k < commands.length),
      (∃ outcome, CameTo batch.stages k outcome ∧
        (batch.report start commands timedOut).outcomes[k]? = some outcome) ∨
      (∀ own, ¬ CameTo batch.stages k own) ∧
        (batch.report start commands timedOut).outcomes[k]? =
          some (.unfinished k commands[k].name start batch.world.clock timedOut) := by
    intro k hk
    rcases slot_of_isOver htracked hover hk with ⟨outcome, hended, hslot⟩ | ⟨hnone, hslot⟩
    · refine Or.inl ⟨outcome, hended, ?_⟩
      exact getElem?_outcomesFrom _ _ _ _ (List.getElem?_eq_getElem hk) hslot
    · refine Or.inr ⟨hnone, ?_⟩
      rw [report, reportOf, getElem?_outcomesFrom _ _ _ _ (List.getElem?_eq_getElem hk) hslot,
        Nat.zero_add]
      rfl
  have hplace : ∀ k outcome, (batch.report start commands timedOut).outcomes[k]? = some outcome →
      IsOutcomeOf commands k outcome := by
    intro k outcome hk
    obtain ⟨hlt, -⟩ := List.getElem?_eq_some_iff.1 hk
    rcases hplaces k (hlength ▸ hlt) with ⟨own, hended, hown⟩ | ⟨-, hown⟩
    · rw [hk, Option.some.injEq] at hown
      exact hown ▸ htracked.own k _ hended own rfl
    · rw [hk, Option.some.injEq] at hown
      rw [hown]
      exact ⟨rfl, _, List.getElem?_eq_getElem _, rfl⟩
  refine ⟨hlength, hplace, ?_, ?_, ?_, ?_, ?_⟩
  · intro k outcome hended
    rw [CameTo] at hended
    obtain ⟨hlt, -⟩ := List.getElem?_eq_some_iff.1 hended
    rcases hplaces k (htracked.length_stages ▸ hlt) with ⟨own, hown, hk⟩ | ⟨hnone, -⟩
    · rw [CameTo, hended] at hown
      simp only [Option.some.injEq, Stage.ended.injEq] at hown
      rw [hown]
      exact hk
    · exact absurd hended (hnone outcome)
  · intro k outcome hk hnone
    obtain ⟨hlt, -⟩ := List.getElem?_eq_some_iff.1 hk
    rcases hplaces k (hlength ▸ hlt) with ⟨own, hown, -⟩ | ⟨-, hother⟩
    · exact absurd hown (hnone own)
    · rw [hk, Option.some.injEq] at hother
      rw [hother]
      exact ⟨rfl, rfl, rfl⟩
  · rw [BatchReport.succeeded_add_failed, hlength]
  · exact BatchReport.pairwise_failed fun k outcome hk => (hplace k outcome hk).1
  · exact BatchReport.allSucceeded_iff _

/-! ## Running a batch -/

theorem history_of_pool {schedule : Schedule} (batch : Batch σ)
    {pool : List (Stage JobOutcome) × World σ}
    (h : schedule.History (batch.stages, batch.world) pool) :
    History schedule batch { batch with stages := pool.1, world := pool.2 } := by
  induction h with
  | refl => exact .refl
  | tail _ hlast ih => exact ih.tail (.works hlast)

/-- Of the workers before an index, all that have ended are joined, and no others are. -/
structure JoinedBefore (batch : Batch σ) (n : Nat) : Prop where
  below : ∀ k ∈ batch.joined, k < n
  drained : ∀ k result, k < n → batch.stages[k]? = some (.ended result) → k ∈ batch.joined

theorem joinedBefore_zero {batch : Batch σ} (h : batch.joined = []) : JoinedBefore batch 0 := by
  refine ⟨?_, fun _ _ hlt => absurd hlt (Nat.not_lt_zero _)⟩
  intro k hk
  rw [h] at hk
  exact absurd hk List.not_mem_nil

/-- A worker that has not ended is passed over. -/
theorem joinedBefore_pass {batch : Batch σ} {n : Nat} (h : JoinedBefore batch n)
    (hn : ∀ result, batch.stages[n]? ≠ some (.ended result)) : JoinedBefore batch (n + 1) := by
  refine ⟨fun k hk => Nat.lt_succ_of_lt (h.below k hk), ?_⟩
  intro k result hlt hk
  rcases Nat.lt_succ_iff_lt_or_eq.1 hlt with hlt | rfl
  · exact h.drained k result hlt hk
  · exact absurd hk (hn result)

/-- A worker that has ended is joined. -/
theorem joinedBefore_join {batch : Batch σ} {n : Nat} (h : JoinedBefore batch n) (slots : Slots) :
    JoinedBefore { batch with joined := n :: batch.joined, slots } (n + 1) := by
  refine ⟨?_, ?_⟩
  · intro k hk
    rcases List.mem_cons.1 hk with rfl | hk
    · exact Nat.lt_succ_self _
    · exact Nat.lt_succ_of_lt (h.below k hk)
  · intro k result hlt hk
    rcases Nat.lt_succ_iff_lt_or_eq.1 hlt with hlt | rfl
    · exact List.mem_cons_of_mem _ (h.drained k result hlt hk)
    · exact List.mem_cons_self ..

/-- All that has ended can be joined, in the order of the commands. What joining keeps is kept. -/
theorem exists_joined_gather {P : Batch σ → Prop}
    (hP : ∀ (batch : Batch σ) (k : Nat) (result : Option JobOutcome), AllSubmitted batch.stages →
      batch.stages[k]? = some (.ended result) → k ∉ batch.joined → P batch →
        P { batch with joined := k :: batch.joined, slots := takeIn batch.slots result })
    (front : List (Stage JobOutcome)) {rest : List (Stage JobOutcome)} (batch : Batch σ)
    (hstages : batch.stages = front ++ rest) (hsubmitted : AllSubmitted batch.stages)
    (hjoined : JoinedBefore batch front.length) (h : P batch) :
    ∃ joined, P { batch with joined, slots := gather batch.slots rest } ∧
      ∀ k result, batch.stages[k]? = some (Stage.ended result) → k ∈ joined := by
  induction rest generalizing front batch with
  | nil =>
    refine ⟨batch.joined, h, ?_⟩
    intro k result hk
    obtain ⟨hlt, -⟩ := List.getElem?_eq_some_iff.1 hk
    rw [hstages, List.append_nil] at hlt
    exact hjoined.drained k result hlt hk
  | cons stage rest ih =>
    have hfront : batch.stages = (front ++ [stage]) ++ rest := by rw [hstages]; simp
    have hstage : batch.stages[front.length]? = some stage := by rw [hstages]; simp
    have hlength : (front ++ [stage]).length = front.length + 1 := by simp
    have hpass : (∀ result, stage ≠ .ended result) →
        JoinedBefore batch (front ++ [stage]).length := by
      intro hended
      rw [hlength]
      refine joinedBefore_pass hjoined ?_
      intro result hresult
      rw [hstage, Option.some.injEq] at hresult
      exact hended result hresult
    cases stage with
    | ended result =>
      have hnew : front.length ∉ batch.joined :=
        fun hmem => Nat.lt_irrefl _ (hjoined.below _ hmem)
      exact ih _ { batch with
        joined := front.length :: batch.joined, slots := takeIn batch.slots result } hfront
          hsubmitted (hlength ▸ joinedBefore_join hjoined _)
            (hP batch _ result hsubmitted hstage hnew h)
    | upcoming work => exact ih _ batch hfront hsubmitted (hpass (by simp)) h
    | queued work => exact ih _ batch hfront hsubmitted (hpass (by simp)) h
    | running wake work => exact ih _ batch hfront hsubmitted (hpass (by simp)) h

theorem timely_initial (runner : JobRunner) (commands : List Command) (schedule : Schedule) :
    schedule.Timely (runner.stagesFrom 0 commands) schedule.start := by
  intro k stage t hk hdue
  rw [getElem?_stagesFrom, Option.map_eq_some_iff] at hk
  obtain ⟨command, -, rfl⟩ := hk
  rw [Schedule.due?, Option.some.injEq] at hdue
  exact hdue ▸ Instant.le_later _ _

/-- A schedule lets every command come in before the cut-off. -/
theorem submission_le_cutoff {runner : JobRunner} {count workers : Nat} {interval : Duration}
    {now : Instant} {schedule : Schedule}
    (h : runner.schedule? count workers interval now = some schedule) {k : Nat} (hk : k < count) :
    schedule.submission k ≤ schedule.cutoff := by
  obtain ⟨deadline, -, -, rfl⟩ := schedule?_eq_some_iff.1 h
  have hlast : now.later ⟨k * interval.nanoseconds⟩ ≤
      now.later ⟨(count - 1) * interval.nanoseconds⟩ :=
    Nat.add_le_add_left (Nat.mul_le_mul_right _ (Nat.le_sub_one_of_lt hk)) _
  exact Instant.le_trans hlast (le_laterOf_right _ _)

/-- When a schedule has no more steps, every command has been submitted. -/
theorem allSubmitted_of_step_eq_none {schedule : Schedule} {stages : List (Stage JobOutcome)}
    {world : World σ} (hnone : schedule.step stages world = none)
    (hsubmission : ∀ k < stages.length, schedule.submission k ≤ schedule.cutoff) :
    AllSubmitted stages := by
  intro work hwork
  obtain ⟨k, hlt, hk⟩ := List.getElem_of_mem hwork
  have hlate := Schedule.cutoff_lt_of_step_eq_none hnone
    (List.getElem?_eq_some_iff.2 ⟨hlt, hk⟩) rfl
  exact absurd (hsubmission k hlt) (Nat.not_le_of_lt hlate)

end Batch

theorem history_closing {schedule : Schedule} {stages : List (Stage JobOutcome)} {world : World σ}
    (h : world.clock ≤ schedule.cutoff) :
    schedule.History (stages, world) (stages, closing schedule stages world) := by
  rw [closing]
  split
  · rw [← Schedule.after_since h]
    exact .single (.passes stages world _)
  · exact .refl

theorem decided_closing (schedule : Schedule) (stages : List (Stage JobOutcome))
    (world : World σ) :
    if isCutShort stages then
      schedule.cutoff ≤ (closing schedule stages world).clock ∧
        ∃ stage ∈ stages, hasEnded stage = false
    else ∀ stage ∈ stages, hasEnded stage = true := by
  split
  · rename_i hcut
    refine ⟨?_, ?_⟩
    · rw [closing, if_pos hcut]
      exact Instant.le_refl _
    · simpa [isCutShort] using hcut
  · rename_i hcut
    simpa [isCutShort] using hcut

section Run

variable {runner : JobRunner} {commands : List Command} {workers : Nat} {interval : Duration}
  {world : World σ} {schedule : Schedule}

/-- At the start of a batch nothing is due before, and the time is not up. -/
theorem timely_start
    (h : runner.schedule? commands.length workers interval world.clock = some schedule) :
    schedule.Timely (runner.stagesFrom 0 commands) world.clock ∧
      world.clock ≤ schedule.cutoff := by
  obtain ⟨deadline, -, -, rfl⟩ := schedule?_eq_some_iff.1 h
  exact ⟨Batch.timely_initial runner commands _,
    Instant.le_trans (Instant.le_later _ _) (le_laterOf_right _ _)⟩

/-- When a batch comes to its end, all of its commands have been submitted. -/
theorem allSubmitted_drive
    (h : runner.schedule? commands.length workers interval world.clock = some schedule) :
    Batch.AllSubmitted (schedule.drive (runner.stagesFrom 0 commands) world).1 := by
  obtain ⟨htimely, hcutoff⟩ := timely_start h
  obtain ⟨-, -, hnone⟩ := Schedule.history_drive htimely hcutoff
  refine Batch.allSubmitted_of_step_eq_none hnone ?_
  intro k hk
  rw [Schedule.length_drive, length_stagesFrom] at hk
  exact Batch.submission_le_cutoff h hk

/-- A batch with a schedule is driven to its end, closed and reported. -/
theorem run_eq (h : runner.schedule? commands.length workers interval world.clock = some schedule) :
    runner.run commands workers interval world =
      let pool := schedule.drive (runner.stagesFrom 0 commands) world
      let closed := closing schedule pool.1 pool.2
      (some (report world.clock closed.clock commands pool.1), closed) := by
  rw [run]
  simp only [h]

/-- A batch is run along one of its histories, until it is over. -/
theorem exists_history_of_run
    (h : runner.schedule? commands.length workers interval world.clock = some schedule) :
    ∃ (batch : Batch σ) (timedOut : Bool),
      Batch.History schedule (Batch.initial runner commands world) batch ∧
      batch.IsOver schedule timedOut ∧
      runner.run commands workers interval world =
        (some (batch.report world.clock commands timedOut), batch.world) := by
  obtain ⟨htimely, hcutoff⟩ := timely_start h
  obtain ⟨hdriven, hclock, -⟩ := Schedule.history_drive htimely hcutoff
  have hsubmitted := allSubmitted_drive h
  have hrun := run_eq h
  generalize schedule.drive (runner.stagesFrom 0 commands) world = pool at *
  obtain ⟨stages, driven⟩ := pool
  -- the pool has come to its end; what has ended is joined
  have hworked := Batch.history_of_pool (Batch.initial runner commands world)
    (hdriven.trans (history_closing hclock))
  obtain ⟨joined, hjoined, hdrained⟩ := Batch.exists_joined_gather
    (fun _ _ _ hsubmitted hk hnew hhistory => hhistory.tail (.joins hsubmitted hk hnew)) []
    { Batch.initial runner commands world with stages, world := closing schedule stages driven }
    rfl hsubmitted (Batch.joinedBefore_zero rfl) hworked
  exact ⟨_, _, hjoined, ⟨hsubmitted, hdrained, decided_closing _ _ _⟩, hrun⟩

end Run

/-- However the workers of a batch end, the report on it is faithful, and running a batch gives the
report of one way in which they can end. -/
theorem run_isFaithful (runner : JobRunner) (commands : List Command) (workers : Nat)
    (interval : Duration) (world : World σ)
    (hdeadline : (world.clock.later? runner.batchTimeout).isSome)
    (hworkers : workers ≤ workerLimit) :
    ∃ schedule, runner.schedule? commands.length workers interval world.clock = some schedule ∧
      (∃ (batch : Batch σ) (timedOut : Bool),
        Batch.History schedule (Batch.initial runner commands world) batch ∧
        batch.IsOver schedule timedOut ∧
        runner.run commands workers interval world =
          (some (batch.report world.clock commands timedOut), batch.world)) ∧
      ∀ (batch : Batch σ) (timedOut : Bool),
        Batch.History schedule (Batch.initial runner commands world) batch →
        batch.IsOver schedule timedOut →
        IsFaithful commands batch.stages timedOut (batch.report world.clock commands timedOut) := by
  obtain ⟨deadline, hdeadline⟩ := Option.isSome_iff_exists.1 hdeadline
  have hcount : workerCount workers ≤ workerLimit := Nat.max_le.2 ⟨hworkers, by decide⟩
  obtain ⟨schedule, hschedule⟩ : ∃ schedule,
      runner.schedule? commands.length workers interval world.clock = some schedule :=
    ⟨_, schedule?_eq_some_iff.2 ⟨deadline, hdeadline, hcount, rfl⟩⟩
  refine ⟨schedule, hschedule, exists_history_of_run hschedule, ?_⟩
  intro batch timedOut hhistory hover
  have htracked := Batch.tracked_of_history hhistory (Batch.tracked_initial runner commands world)
  exact Batch.isFaithful_of_isOver htracked hover world.clock

/-- Two commands on three workers that cannot reach their server, with a second for both. -/
theorem exists_faithful_report :
    ∃ report : BatchReport,
      (run ⟨⟨⟨"http://10.0.0.1:8096/", .integration, "", "", .zero, .zero, .zero⟩, none, none⟩,
        none, .ofSeconds 1⟩ [.named "listUsers", .named "listDomains"] 3 .zero
          (⟨⟨0⟩, fun _ _ => (⟨.zero, none⟩, ()), (), .down, fun _ => 0, 0, []⟩ : World Unit)).1 =
        some report ∧
      report.outcomes.length = 2 ∧
      ∀ outcome : JobOutcome, report.outcomes[1]? = some outcome →
        outcome.index = 1 ∧ outcome.command = "listDomains" := by
  obtain ⟨schedule, -, ⟨batch, timedOut, hhistory, hover, hrun⟩, hfaithful⟩ :=
    run_isFaithful
      ⟨⟨⟨"http://10.0.0.1:8096/", .integration, "", "", .zero, .zero, .zero⟩, none, none⟩, none,
        .ofSeconds 1⟩ [.named "listUsers", .named "listDomains"] 3 .zero
        (⟨⟨0⟩, fun _ _ => (⟨.zero, none⟩, ()), (), .down, fun _ => 0, 0, []⟩ : World Unit)
        (by decide) (by decide)
  have hreport := hfaithful batch timedOut hhistory hover
  refine ⟨_, by rw [hrun], hreport.length, ?_⟩
  intro outcome houtcome
  obtain ⟨hindex, command, hcommand, hname⟩ := hreport.place 1 outcome houtcome
  obtain rfl : Command.named "listDomains" = command := Option.some.inj hcommand
  exact ⟨hindex, hname⟩

end JobRunner

end ControlPlane
