import ControlPlane.Batch.Report
import ControlPlane.Batch.Schedule
import ControlPlane.Client

/-!
# Running batches

A runner has the commands of a batch done by a bounded number of workers over one client, and
reports on all of them. A command that fails is an outcome like any other, and each outcome says
itself which command it belongs to. When the time for the batch is up, or when the last command was
submitted if that is later, what has not ended is given up.

Commands are submitted one after the other, `interval` apart. The result is absent only if the
deadline lies beyond what the clock can represent or more workers are asked for than a pool can
have.

Main statements: a report has an outcome for every command (`length_outcomesFrom`), the one in the
place of the command if there is any (`getElem?_outcomesFrom`).
-/
namespace ControlPlane

/-- A pool of workers over one client. -/
structure JobRunner where
  client : Client
  /-- Where jobs are looked up after they have been waited for. -/
  table : Option JobTable
  batchTimeout : Duration

namespace JobRunner

/-- The greatest number of workers of a pool. -/
def workerLimit : Nat := 0x1FFFFFFFFFFFFFFF

/-- Job and result of a command that came to an end. -/
def conclude : Except ClientError CommandOutput → Option String × JobResult
  | .ok output => (output.jobId, .succeeded output.body)
  | .error error => (error.jobId?, .ofError error)

/-- What the database knows of a job, if there are both. -/
def recordOf (table : Option JobTable) (jobId : Option String) : Option JobRecord :=
  match table, jobId with
  | some table, some jobId => table.record? jobId
  | _, _ => none

/-- Runs one command of a batch to its outcome. -/
def runOne (runner : JobRunner) (index : Nat) (command : Command) : Dialogue JobOutcome :=
  .readClock fun started =>
    (ExceptT.run (runner.client.executeRaw command)).bind fun result =>
      .readClock fun ended =>
        let (jobId, result) := conclude result
        .done
          { index
            command := command.name
            jobId
            started
            ended
            duration := ended.since started
            result
            record := recordOf runner.table jobId }

/-- The commands of a batch as work for a pool, from an index on. -/
def stagesFrom (runner : JobRunner) (index : Nat) : List Command → List (Stage JobOutcome)
  | [] => []
  | command :: rest =>
    .upcoming (runner.runOne index command) :: runner.stagesFrom (index + 1) rest

/-- The number of workers that are put to work: one at least. -/
def workerCount (workers : Nat) : Nat := max workers 1

/-- The later of two instants. -/
def laterOf (a b : Instant) : Instant := if a < b then b else a

/-- The schedule of a batch that starts now. -/
def schedule? (runner : JobRunner) (count workers : Nat) (interval : Duration) (now : Instant) :
    Option Schedule := do
  let deadline ← now.later? runner.batchTimeout
  if workerLimit < workerCount workers then none
  let lastSubmission := now.later ⟨(count - 1) * interval.nanoseconds⟩
  pure
    { workers := workerCount workers
      start := now
      interval
      deadline
      cutoff := laterOf deadline lastSubmission }

/-- Whether a piece of work has ended. -/
def hasEnded : Stage JobOutcome → Bool
  | .ended _ => true
  | _ => false

/-- The outcomes of a batch as they come in, each in the place of its command. -/
abbrev Slots := List (Option JobOutcome)

/-- Places for the outcomes of a number of commands. -/
def emptySlots (count : Nat) : Slots := List.replicate count none

/-- Takes in what a worker came to: an outcome goes where its index says, and of work that broke
off there is none. -/
def takeIn (slots : Slots) : Option JobOutcome → Slots
  | some outcome => slots.set outcome.index (some outcome)
  | none => slots

/-- Takes in whatever has ended. -/
def gather (slots : Slots) : List (Stage JobOutcome) → Slots
  | [] => slots
  | .ended result :: stages => gather (takeIn slots result) stages
  | _ :: stages => gather slots stages

/-- The outcomes of the commands from an index on: the one that came in, or that there is none. -/
def outcomesFrom (start ended : Instant) (timedOut : Bool) (index : Nat) :
    List Command → Slots → List JobOutcome
  | command :: commands, slot :: slots =>
    slot.getD (.unfinished index command.name start ended timedOut) ::
      outcomesFrom start ended timedOut (index + 1) commands slots
  | _, _ => []

/-- The report on a batch that took from one instant to another, from what came in. -/
def reportOf (start ended : Instant) (timedOut : Bool) (commands : List Command)
    (slots : Slots) : BatchReport where
  outcomes := outcomesFrom start ended timedOut 0 commands slots
  elapsed := ended.since start

/-- Whether a batch was cut off before all its work had ended. -/
def isCutShort (stages : List (Stage JobOutcome)) : Bool := !stages.all hasEnded

/-- The report on a batch whose work has come to given stages. -/
def report (start ended : Instant) (commands : List Command)
    (stages : List (Stage JobOutcome)) : BatchReport :=
  reportOf start ended (isCutShort stages) commands (gather (emptySlots commands.length) stages)

/-- The world when a batch is over: at the cut-off, if that came first. -/
def closing {σ : Type} (schedule : Schedule) (stages : List (Stage JobOutcome)) (world : World σ) :
    World σ :=
  if isCutShort stages then { world with clock := schedule.cutoff } else world

/-- Runs commands, submitting them `interval` apart. -/
def run {σ : Type} (runner : JobRunner) (commands : List Command) (workers : Nat)
    (interval : Duration) (world : World σ) : Option BatchReport × World σ :=
  let start := world.clock
  match runner.schedule? commands.length workers interval start with
  | none => (none, world)
  | some schedule =>
    let (stages, world) := schedule.drive (runner.stagesFrom 0 commands) world
    let world := closing schedule stages world
    (some (report start world.clock commands stages), world)

/-- Runs commands that are submitted all at once. -/
def submitAll {σ : Type} (runner : JobRunner) (commands : List Command) (workers : Nat)
    (world : World σ) : Option BatchReport × World σ :=
  runner.run commands workers .zero world

/-- Runs one command a number of times. -/
def submitTimes {σ : Type} (runner : JobRunner) (command : Command) (times workers : Nat)
    (interval : Duration) (world : World σ) : Option BatchReport × World σ :=
  runner.run (List.replicate times command) workers interval world

/-! ## Schedules -/

theorem le_laterOf_right (a b : Instant) : b ≤ laterOf a b := by
  unfold laterOf
  split
  · exact Instant.le_refl b
  · rename_i h
    exact Nat.le_of_not_lt h

/-- The schedule of a batch whose deadline is given. -/
theorem schedule?_eq_some_iff {runner : JobRunner} {count workers : Nat} {interval : Duration}
    {now : Instant} {schedule : Schedule} :
    runner.schedule? count workers interval now = some schedule ↔
      ∃ deadline, now.later? runner.batchTimeout = some deadline ∧
        workerCount workers ≤ workerLimit ∧
        schedule =
          { workers := workerCount workers
            start := now
            interval
            deadline
            cutoff := laterOf deadline (now.later ⟨(count - 1) * interval.nanoseconds⟩) } := by
  cases hdeadline : now.later? runner.batchTimeout with
  | none => simp [schedule?, hdeadline]
  | some deadline =>
    by_cases hworkers : workerLimit < workerCount workers
    · simp [schedule?, hdeadline, hworkers, Nat.not_le_of_lt hworkers]
    · simp [schedule?, hdeadline, hworkers, Nat.le_of_not_lt hworkers, eq_comm]

/-! ## Reports -/

theorem length_stagesFrom (runner : JobRunner) (index : Nat) (commands : List Command) :
    (runner.stagesFrom index commands).length = commands.length := by
  induction commands generalizing index with
  | nil => rfl
  | cons command rest ih => simp [stagesFrom, ih]

theorem getElem?_stagesFrom (runner : JobRunner) (index : Nat) (commands : List Command) (k : Nat) :
    (runner.stagesFrom index commands)[k]? =
      commands[k]?.map fun command => .upcoming (runner.runOne (index + k) command) := by
  induction commands generalizing index k with
  | nil => rfl
  | cons command rest ih =>
    cases k with
    | zero => rfl
    | succ k =>
      rw [stagesFrom, List.getElem?_cons_succ, List.getElem?_cons_succ, ih, Nat.add_assoc,
        Nat.add_comm 1 k]

theorem length_takeIn (slots : Slots) (result : Option JobOutcome) :
    (takeIn slots result).length = slots.length := by
  cases result with
  | none => rfl
  | some outcome => exact List.length_set

theorem length_outcomesFrom (start ended : Instant) (timedOut : Bool) (index : Nat)
    {commands : List Command} {slots : Slots} (h : slots.length = commands.length) :
    (outcomesFrom start ended timedOut index commands slots).length = commands.length := by
  induction commands generalizing index slots with
  | nil => cases slots <;> rfl
  | cons command rest ih =>
    cases slots with
    | nil => exact absurd h (by simp)
    | cons slot slots =>
      rw [outcomesFrom, List.length_cons, List.length_cons, ih (index + 1) (by simpa using h)]

theorem getElem?_outcomesFrom (start ended : Instant) (timedOut : Bool) (index : Nat)
    {commands : List Command} {slots : Slots} {k : Nat} {command : Command}
    {slot : Option JobOutcome} (hcommand : commands[k]? = some command)
    (hslot : slots[k]? = some slot) :
    (outcomesFrom start ended timedOut index commands slots)[k]? =
      some (slot.getD (.unfinished (index + k) command.name start ended timedOut)) := by
  induction commands generalizing index slots k with
  | nil => exact absurd hcommand (by simp)
  | cons first rest ih =>
    cases slots with
    | nil => exact absurd hslot (by simp)
    | cons firstSlot slots =>
      cases k with
      | zero =>
        rw [List.getElem?_cons_zero, Option.some.injEq] at hcommand hslot
        rw [hcommand, hslot]
        rfl
      | succ k =>
        rw [List.getElem?_cons_succ] at hcommand hslot
        rw [outcomesFrom, List.getElem?_cons_succ, ih (index + 1) hcommand hslot, Nat.add_assoc,
          Nat.add_comm 1 k]

end JobRunner

end ControlPlane
