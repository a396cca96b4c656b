import ControlPlane.Proofs.BatchReports

/-!
# Permits of workers

A command of a batch takes a permit before its first request. It keeps the permit while its requests
are under way and until its job has been looked up, and the permit comes back when it ends, with a
result, with an error or by breaking off. There are as many permits as workers.

`Crew.Step` is a batch with the count of the permits that are left, told event by event. No permit
is lost and none is made: those that are left and the commands at work are always as many as there
are workers (`accounted_of_runs`). So the commands at work are never more than the workers, and
since no stage comes back, no command starts twice (`isBounded_of_runs`). Every history of a batch
is one of a crew (`exists_step_of_batch`), and running a batch is one without a worker that breaks
off (`exists_runs_of_run`).
-/

namespace ControlPlane

namespace Schedule

variable {α : Type}

/-- Whether work has been taken up by a worker. -/
def hasStarted : Stage α → Bool
  | .running _ _ | .ended _ => true
  | _ => false

/-- When the stage at an index changes, so does the number of busy workers. -/
theorem busy_set {stages : List (Stage α)} {k : Nat} {stage : Stage α}
    (hk : stages[k]? = some stage) (stage' : Stage α) :
    busy (stages.set k stage') + (isRunning stage).toNat =
      busy stages + (isRunning stage').toNat := by
  obtain ⟨hlt, hget⟩ := List.getElem?_eq_some_iff.1 hk
  have hpos : isRunning stage = true → 0 < stages.countP isRunning := by
    intro hrunning
    exact List.countP_pos_iff.2 ⟨stage, hget ▸ List.getElem_mem hlt, hrunning⟩
  rw [busy, busy, List.countP_set hlt, hget]
  have htoNat : ∀ b : Bool, (if b = true then 1 else 0) = b.toNat := fun b => by cases b <;> rfl
  rw [htoNat, htoNat]
  cases hrunning : isRunning stage with
  | true =>
    have := hpos hrunning
    simp only [Bool.toNat_true]
    omega
  | false =>
    simp only [Bool.toNat_false]
    omega

/-- The number of busy workers, counted by index. -/
theorem busy_eq_countP_range (stages : List (Stage α)) :
    busy stages = (List.range stages.length).countP fun k => stages[k]?.any isRunning := by
  have hstages : (List.range stages.length).map (fun k => stages[k]?) = stages.map some := by
    refine List.ext_getElem (by simp) ?_
    intro k hk hk'
    simp at hk'
    simp [hk']
  have hcount := congrArg (List.countP (Option.any isRunning)) hstages
  rw [List.countP_map, List.countP_map] at hcount
  exact hcount.symm

end Schedule

namespace JobRunner

variable {σ : Type}

/-- Something that happens in a batch, to the command at an index. -/
inductive Event where
  | passes
  | submits (k : Nat)
  | starts (k : Nat)
  | resumes (k : Nat)
  | ends (k : Nat)
  | breaksOff (k : Nat)
  | joins (k : Nat)
  deriving DecidableEq

/-- A batch, and how many permits are left for its workers. -/
structure Crew (σ : Type) where
  batch : Batch σ
  permits : Nat

namespace Crew

/-- A crew before anything has happened. -/
def initial (runner : JobRunner) (commands : List Command) (schedule : Schedule)
    (world : World σ) : Crew σ where
  batch := .initial runner commands world
  permits := schedule.workers

/-- The crew after the work at an index has come to a stage. -/
def put (crew : Crew σ) (k : Nat) (stage : Stage JobOutcome) (world : World σ) : Crew σ :=
  { crew with batch := { crew.batch with stages := crew.batch.stages.set k stage, world } }

/-- One event, and what it makes of a crew. -/
inductive Step (schedule : Schedule) (crew : Crew σ) : Event → Crew σ → Prop
  | passes (span : Duration) :
    Step schedule crew .passes
      { crew with batch := { crew.batch with world := crew.batch.world.after span } }
  | submits {k : Nat} {work : Dialogue JobOutcome}
    (hk : crew.batch.stages[k]? = some (.upcoming work))
    (hdue : schedule.submission k ≤ crew.batch.world.clock) :
    Step schedule crew (.submits k) (crew.put k (.queued work) crew.batch.world)
  /-- A command takes one of the permits that are left. -/
  | starts {k n : Nat} {work : Dialogue JobOutcome}
    (hk : crew.batch.stages[k]? = some (.queued work)) (hleft : crew.permits = n + 1) :
    Step schedule crew (.starts k)
      { crew.put k (.running crew.batch.world.clock work) crew.batch.world with permits := n }
  | resumes {k : Nat} {wake wake' : Instant} {work rest : Dialogue JobOutcome} {world : World σ}
    (hk : crew.batch.stages[k]? = some (.running wake work))
    (hwake : wake ≤ crew.batch.world.clock)
    (hadvance : work.advance crew.batch.world = (.sleeping wake' rest, world)) :
    Step schedule crew (.resumes k) (crew.put k (.running wake' rest) world)
  /-- A command ends and gives its permit back. -/
  | ends {k : Nat} {wake : Instant} {work : Dialogue JobOutcome} {result : Option JobOutcome}
    {world : World σ} (hk : crew.batch.stages[k]? = some (.running wake work))
    (hwake : wake ≤ crew.batch.world.clock)
    (hadvance : work.advance crew.batch.world = (.ended result, world)) :
    Step schedule crew (.ends k)
      { crew.put k (.ended result) world with permits := crew.permits + 1 }
  /-- A worker breaks off, and its permit comes back all the same. -/
  | breaksOff {k : Nat} {wake : Instant} {work : Dialogue JobOutcome}
    (hk : crew.batch.stages[k]? = some (.running wake work)) :
    Step schedule crew (.breaksOff k)
      { crew.put k (.ended none) crew.batch.world with permits := crew.permits + 1 }
  | joins {k : Nat} {result : Option JobOutcome}
    (hsubmitted : Batch.AllSubmitted crew.batch.stages)
    (hk : crew.batch.stages[k]? = some (.ended result)) (hnew : k ∉ crew.batch.joined) :
    Step schedule crew (.joins k)
      { crew with batch := { crew.batch with
        joined := k :: crew.batch.joined, slots := takeIn crew.batch.slots result } }

/-- Events one after another, the latest first, and what they make of a crew. -/
inductive Runs (schedule : Schedule) (crew : Crew σ) : List Event → Crew σ → Prop
  | nil : Runs schedule crew [] crew
  | cons {events : List Event} {event : Event} {crew' crew'' : Crew σ}
    (h : Runs schedule crew events crew') (hstep : Step schedule crew' event crew'') :
    Runs schedule crew (event :: events) crew''

/-- No worker breaks off. -/
def Unbroken (events : List Event) : Prop :=
  ∀ k, Event.breaksOff k ∉ events

/-! ## Permits and stages -/

/-- Permits and events agree with the stages. -/
structure Accounted (schedule : Schedule) (events : List Event) (crew : Crew σ) : Prop where
  permits : crew.permits + Schedule.busy crew.batch.stages = schedule.workers
  started : ∀ k, events.count (.starts k) =
    (crew.batch.stages[k]?.any Schedule.hasStarted).toNat
  ended : ∀ k, events.count (.ends k) + events.count (.breaksOff k) =
    (crew.batch.stages[k]?.any hasEnded).toNat

theorem accounted_initial (runner : JobRunner) (commands : List Command) (schedule : Schedule)
    (world : World σ) : Accounted schedule [] (initial runner commands schedule world) := by
  have hupcoming : ∀ (k : Nat) (p : Stage JobOutcome → Bool), (∀ work, p (.upcoming work) = false) →
      (runner.stagesFrom 0 commands)[k]?.any p = false := by
    intro k p hp
    rw [getElem?_stagesFrom]
    cases commands[k]? with
    | none => rfl
    | some command => exact hp _
  refine ⟨?_, ?_, ?_⟩
  · have hbusy : Schedule.busy (runner.stagesFrom 0 commands) = 0 := by
      rw [Schedule.busy_eq_countP_range, List.countP_eq_zero]
      intro k _
      simp [hupcoming k Schedule.isRunning fun _ => rfl]
    simp only [initial, Batch.initial, hbusy, Nat.add_zero]
  · intro k
    simp [initial, Batch.initial, hupcoming k Schedule.hasStarted fun _ => rfl]
  · intro k
    simp [initial, Batch.initial, hupcoming k hasEnded fun _ => rfl]

/-- What the stages have more of a lasting property after one of them has changed. -/
theorem toNat_any_set {stages : List (Stage JobOutcome)} {k : Nat} {stage : Stage JobOutcome}
    (hk : stages[k]? = some stage) (stage' : Stage JobOutcome) (p : Stage JobOutcome → Bool)
    (hp : p stage = true → p stage' = true) (j : Nat) :
    ((stages.set k stage')[j]?.any p).toNat =
      (stages[j]?.any p).toNat + if k = j then (p stage').toNat - (p stage).toNat else 0 := by
  obtain ⟨hlt, -⟩ := List.getElem?_eq_some_iff.1 hk
  by_cases hkj : k = j
  · subst hkj
    rw [List.getElem?_set_self hlt, hk, if_pos rfl, Option.any_some, Option.any_some]
    cases hbefore : p stage with
    | true => simp [hp hbefore]
    | false => simp
  · rw [List.getElem?_set_ne hkj, if_neg hkj, Nat.add_zero]

/-- After the work at an index has come to another stage, permits and events agree with the stages
again if the event says what is new about that stage. -/
theorem accounted_put {schedule : Schedule} {events : List Event} {event : Event} {crew : Crew σ}
    (h : Accounted schedule events crew) {k permits : Nat} {stage stage' : Stage JobOutcome}
    {world : World σ} (hk : crew.batch.stages[k]? = some stage) (hopen : hasEnded stage = false)
    (hstarted : Schedule.hasStarted stage = true → Schedule.hasStarted stage' = true)
    (hpermits : permits + (Schedule.isRunning stage').toNat =
      crew.permits + (Schedule.isRunning stage).toNat)
    (hstarts : ∀ j, [event].count (.starts j) =
      if k = j then (Schedule.hasStarted stage').toNat - (Schedule.hasStarted stage).toNat else 0)
    (hends : ∀ j, [event].count (.ends j) + [event].count (.breaksOff j) =
      if k = j then (hasEnded stage').toNat else 0) :
    Accounted schedule (event :: events) { crew.put k stage' world with permits } := by
  have hcons : ∀ other : Event, (event :: events).count other =
      [event].count other + events.count other := fun other => @List.count_append _ _ _ [event] _
  refine ⟨?_, ?_, ?_⟩
  · have hbusy := Schedule.busy_set hk stage'
    have hbefore := h.permits
    simp only [put]
    omega
  · intro j
    simp only [put]
    rw [toNat_any_set hk stage' Schedule.hasStarted hstarted, hcons, hstarts, h.started,
      Nat.add_comm]
  · intro j
    have hbefore := h.ended j
    have hevent := hends j
    simp only [put]
    rw [toNat_any_set hk stage' hasEnded (by simp [hopen]), hcons, hcons, hopen]
    simp only [Bool.toNat_false, Nat.sub_zero]
    omega

theorem accounted_of_step {schedule : Schedule} {events : List Event} {event : Event}
    {crew crew' : Crew σ} (h : Step schedule crew event crew')
    (haccounted : Accounted schedule events crew) :
    Accounted schedule (event :: events) crew' := by
  cases h with
  | passes span =>
    exact ⟨haccounted.permits, by simpa using haccounted.started, by simpa using haccounted.ended⟩
  | submits hk hdue =>
    exact accounted_put haccounted hk rfl (fun h => h) rfl (by simp [Schedule.hasStarted])
      (by simp [hasEnded])
  | starts hk hleft =>
    exact accounted_put haccounted hk rfl (fun _ => rfl) hleft.symm
      (by simp [Schedule.hasStarted, List.count_singleton]) (by simp [hasEnded])
  | resumes hk hwake hadvance =>
    exact accounted_put haccounted hk rfl (fun _ => rfl) rfl (by simp [Schedule.hasStarted])
      (by simp [hasEnded])
  | ends hk hwake hadvance =>
    exact accounted_put haccounted hk rfl (fun _ => rfl) rfl (by simp [Schedule.hasStarted])
      (by simp [hasEnded, List.count_singleton])
  | breaksOff hk =>
    exact accounted_put haccounted hk rfl (fun _ => rfl) rfl (by simp [Schedule.hasStarted])
      (by simp [hasEnded, List.count_singleton])
  | joins hsubmitted hk hnew =>
    exact ⟨haccounted.permits, by simpa using haccounted.started, by simpa using haccounted.ended⟩

theorem accounted_of_runs {schedule : Schedule} {runner : JobRunner} {commands : List Command}
    {world : World σ} {events : List Event} {crew : Crew σ}
    (h : Runs schedule (initial runner commands schedule world) events crew) :
    Accounted schedule events crew := by
  induction h with
  | nil => exact accounted_initial runner commands schedule world
  | cons _ hstep ih => exact accounted_of_step hstep ih

/-! ## Crews and histories -/

/-- What an event makes of a crew can happen to its batch. -/
theorem batch_step_of_step {schedule : Schedule} {events : List Event} {event : Event}
    {crew crew' : Crew σ} (h : Step schedule crew event crew')
    (haccounted : Accounted schedule events crew) :
    Batch.Step schedule crew.batch crew'.batch := by
  -- work that goes on, by what becomes of it
  have goesOn : ∀ {k : Nat} {stage stage' : Stage JobOutcome} {world : World σ},
      crew.batch.stages[k]? = some stage →
      schedule.Ready crew.batch.stages crew.batch.world.clock k stage →
      Schedule.perform stage crew.batch.world = (stage', world) →
      Batch.Step schedule crew.batch (crew.put k stage' world).batch := by
    intro k stage stage' world hk hready hperform
    have hhappens := Schedule.Happens.goesOn hk hready
    rw [hperform] at hhappens
    exact .works hhappens
  cases h with
  | passes span => exact .works (.passes crew.batch.stages crew.batch.world span)
  | submits hk hdue => exact goesOn hk hdue rfl
  | starts hk hleft =>
    refine goesOn hk ?_ rfl
    have hpermits := haccounted.permits
    simp only [Schedule.Ready]
    omega
  | resumes hk hwake hadvance =>
    exact goesOn hk hwake (by simp only [Schedule.perform, hadvance])
  | ends hk hwake hadvance =>
    exact goesOn hk hwake (by simp only [Schedule.perform, hadvance])
  | breaksOff hk => exact .works (.breaksOff hk)
  | joins hsubmitted hk hnew => exact .joins hsubmitted hk hnew

theorem history_of_runs {schedule : Schedule} {runner : JobRunner} {commands : List Command}
    {world : World σ} {events : List Event} {crew : Crew σ}
    (h : Runs schedule (initial runner commands schedule world) events crew) :
    Batch.History schedule (.initial runner commands world) crew.batch := by
  induction h with
  | nil => exact .refl
  | cons hruns hstep ih => exact ih.tail (batch_step_of_step hstep (accounted_of_runs hruns))

/-- Work that can go on is an event, and no worker breaks off in it. -/
theorem exists_step_of_ready {schedule : Schedule} {events : List Event} {crew : Crew σ}
    (haccounted : Accounted schedule events crew) {k : Nat} {stage : Stage JobOutcome}
    (hk : crew.batch.stages[k]? = some stage)
    (hready : schedule.Ready crew.batch.stages crew.batch.world.clock k stage) :
    ∃ event crew', Step schedule crew event crew' ∧ (∀ j, event ≠ .breaksOff j) ∧
      crew'.batch = { crew.batch with
        stages := crew.batch.stages.set k (Schedule.perform stage crew.batch.world).1
        world := (Schedule.perform stage crew.batch.world).2 } := by
  cases stage with
  | upcoming work => exact ⟨_, _, .submits hk hready, by simp, rfl⟩
  | queued work =>
    have hpermits := haccounted.permits
    simp only [Schedule.Ready] at hready
    obtain ⟨n, hleft⟩ := Nat.exists_eq_add_of_lt hready
    have hleft : crew.permits = n + 1 := by omega
    exact ⟨_, _, .starts hk hleft, by simp, rfl⟩
  | running wake work =>
    rcases hadvance : work.advance crew.batch.world with ⟨result | ⟨wake', rest⟩, world⟩
    · exact ⟨_, _, .ends hk hready hadvance, by simp, by
        simp only [Schedule.perform, hadvance]; rfl⟩
    · exact ⟨_, _, .resumes hk hready hadvance, by simp, by
        simp only [Schedule.perform, hadvance]; rfl⟩
  | ended result => exact absurd hready (by simp [Schedule.Ready])

/-- What can happen to a batch is an event of its crew. -/
theorem exists_step_of_batch {schedule : Schedule} {events : List Event} {crew : Crew σ}
    {batch' : Batch σ} (haccounted : Accounted schedule events crew)
    (h : Batch.Step schedule crew.batch batch') :
    ∃ event crew', Step schedule crew event crew' ∧ crew'.batch = batch' := by
  cases h with
  | @works pool hhappens =>
    obtain ⟨stages', world'⟩ := pool
    cases hhappens with
    | passes _ _ span => exact ⟨_, _, .passes span, rfl⟩
    | goesOn hk hready =>
      obtain ⟨event, crew', hstep, -, hbatch⟩ := exists_step_of_ready haccounted hk hready
      exact ⟨event, crew', hstep, hbatch⟩
    | breaksOff hk => exact ⟨_, _, .breaksOff hk, rfl⟩
  | joins hsubmitted hk hnew => exact ⟨_, _, .joins hsubmitted hk hnew, rfl⟩

/-- Every history of a batch is one of a crew. -/
theorem exists_runs_of_history {schedule : Schedule} {runner : JobRunner}
    {commands : List Command} {world : World σ} {batch : Batch σ}
    (h : Batch.History schedule (.initial runner commands world) batch) :
    ∃ events crew, Runs schedule (initial runner commands schedule world) events crew ∧
      crew.batch = batch := by
  induction h with
  | refl => exact ⟨[], _, .nil, rfl⟩
  | tail _ hlast ih =>
    obtain ⟨events, crew, hruns, rfl⟩ := ih
    obtain ⟨event, crew', hstep, hbatch⟩ := exists_step_of_batch (accounted_of_runs hruns) hlast
    exact ⟨_, crew', hruns.cons hstep, hbatch⟩

/-! ## Running a batch -/

/-- A batch is reached by events in which no worker breaks off. -/
def Reaches (runner : JobRunner) (commands : List Command) (schedule : Schedule) (world : World σ)
    (batch : Batch σ) : Prop :=
  ∃ events crew, Runs schedule (initial runner commands schedule world) events crew ∧
    Unbroken events ∧ crew.batch = batch

section Reaches

variable {runner : JobRunner} {commands : List Command} {schedule : Schedule} {world : World σ}
  {batch : Batch σ}

theorem unbroken_cons {events : List Event} {event : Event} (h : Unbroken events)
    (hevent : ∀ k, event ≠ .breaksOff k) : Unbroken (event :: events) := by
  intro k hk
  rcases List.mem_cons.1 hk with heq | hmem
  · exact hevent k heq.symm
  · exact h k hmem

theorem reaches_passes (h : Reaches runner commands schedule world batch) (span : Duration) :
    Reaches runner commands schedule world { batch with world := batch.world.after span } := by
  obtain ⟨events, crew, hruns, hunbroken, rfl⟩ := h
  exact ⟨_, _, hruns.cons (.passes span), unbroken_cons hunbroken (by simp), rfl⟩

theorem reaches_goesOn (h : Reaches runner commands schedule world batch) {k : Nat}
    {stage : Stage JobOutcome} (hk : batch.stages[k]? = some stage)
    (hready : schedule.Ready batch.stages batch.world.clock k stage) :
    Reaches runner commands schedule world { batch with
      stages := batch.stages.set k (Schedule.perform stage batch.world).1
      world := (Schedule.perform stage batch.world).2 } := by
  obtain ⟨events, crew, hruns, hunbroken, rfl⟩ := h
  obtain ⟨event, crew', hstep, hevent, hbatch⟩ :=
    exists_step_of_ready (accounted_of_runs hruns) hk hready
  exact ⟨_, crew', hruns.cons hstep, unbroken_cons hunbroken hevent, hbatch⟩

theorem reaches_joins (h : Reaches runner commands schedule world batch) {k : Nat}
    {result : Option JobOutcome} (hsubmitted : Batch.AllSubmitted batch.stages)
    (hk : batch.stages[k]? = some (.ended result)) (hnew : k ∉ batch.joined) :
    Reaches runner commands schedule world { batch with
      joined := k :: batch.joined, slots := takeIn batch.slots result } := by
  obtain ⟨events, crew, hruns, hunbroken, rfl⟩ := h
  exact ⟨_, _, hruns.cons (.joins hsubmitted hk hnew), unbroken_cons hunbroken (by simp), rfl⟩

theorem reaches_clock (h : Reaches runner commands schedule world batch) {t : Instant}
    (ht : batch.world.clock ≤ t) :
    Reaches runner commands schedule world
      { batch with world := { batch.world with clock := t } } := by
  rw [← Schedule.after_since ht]
  exact reaches_passes h _

/-- What the schedule does is reached by events. -/
theorem reaches_drive {stages : List (Stage JobOutcome)} {now : World σ}
    (h : Reaches runner commands schedule world { batch with stages, world := now })
    (htimely : schedule.Timely stages now.clock) (hnow : now.clock ≤ schedule.cutoff) :
    Reaches runner commands schedule world { batch with
      stages := (schedule.drive stages now).1, world := (schedule.drive stages now).2 } := by
  fun_induction Schedule.drive schedule stages now with
  | case1 => exact h
  | case2 stages now stages' now' hstep ih =>
    obtain ⟨-, htimely', hnow'⟩ := Schedule.history_of_step hstep htimely hnow
    refine ih ?_ htimely' hnow'
    obtain ⟨t, k, stage, hnext, hk, -, rfl, rfl⟩ := Schedule.step_eq_some hstep
    obtain ⟨hlater, -, hready, -⟩ := Schedule.ready_of_next hnext hk htimely hnow
    exact reaches_goesOn (reaches_clock h hlater) hk hready

end Reaches

/-- Running a batch is one of the ways in which its events can follow each other, and no worker
breaks off. -/
theorem exists_reaches_of_run {runner : JobRunner} {commands : List Command} {workers : Nat}
    {interval : Duration} {world : World σ} {schedule : Schedule}
    (h : runner.schedule? commands.length workers interval world.clock = some schedule) :
    ∃ batch, Reaches runner commands schedule world batch ∧
      batch.stages = (schedule.drive (runner.stagesFrom 0 commands) world).1 ∧
      batch.IsOver schedule (isCutShort batch.stages) ∧
      runner.run commands workers interval world =
        (some (batch.report world.clock commands (isCutShort batch.stages)), batch.world) := by
  obtain ⟨htimely, hcutoff⟩ := timely_start h
  obtain ⟨-, hclock, -⟩ := Schedule.history_drive htimely hcutoff
  have hsubmitted := allSubmitted_drive h
  have hrun := run_eq h
  have hdriven : Reaches runner commands schedule world { Batch.initial runner commands world with
      stages := (schedule.drive (runner.stagesFrom 0 commands) world).1
      world := (schedule.drive (runner.stagesFrom 0 commands) world).2 } :=
    reaches_drive ⟨[], _, .nil, by simp [Unbroken], rfl⟩ htimely hcutoff
  generalize schedule.drive (runner.stagesFrom 0 commands) world = pool at *
  obtain ⟨stages, driven⟩ := pool
  have hclosed : Reaches runner commands schedule world { Batch.initial runner commands world with
      stages, world := closing schedule stages driven } := by
    rw [closing]
    split
    · exact reaches_clock hdriven hclock
    · exact hdriven
  obtain ⟨joined, hjoined, hdrained⟩ := Batch.exists_joined_gather
    (fun _ _ _ hsubmitted hk hnew h => reaches_joins h hsubmitted hk hnew) []
    { Batch.initial runner commands world with stages, world := closing schedule stages driven }
    rfl hsubmitted (Batch.joinedBefore_zero rfl) hclosed
  exact ⟨_, hjoined, rfl, ⟨hsubmitted, hdrained, decided_closing schedule stages driven⟩, hrun⟩

/-! ## Commands at work -/

/-- Whether a command has started and not yet ended. -/
def isAtWork (events : List Event) (k : Nat) : Bool :=
  decide (.starts k ∈ events) && !decide (.ends k ∈ events ∨ .breaksOff k ∈ events)

theorem isAtWork_eq {schedule : Schedule} {events : List Event} {crew : Crew σ}
    (h : Accounted schedule events crew) (k : Nat) :
    isAtWork events k = crew.batch.stages[k]?.any Schedule.isRunning := by
  have htoNat : ∀ b : Bool, 0 < b.toNat ↔ b = true := fun b => by cases b <;> simp
  have hstarted : Event.starts k ∈ events ↔
      crew.batch.stages[k]?.any Schedule.hasStarted = true := by
    rw [← htoNat, ← h.started k, List.count_pos_iff]
  have hended : (Event.ends k ∈ events ∨ Event.breaksOff k ∈ events) ↔
      crew.batch.stages[k]?.any hasEnded = true := by
    rw [← htoNat, ← h.ended k, ← List.count_pos_iff, ← List.count_pos_iff]
    omega
  rw [Bool.eq_iff_iff, isAtWork, Bool.and_eq_true, Bool.not_eq_true', decide_eq_true_iff,
    decide_eq_false_iff_not, hstarted, hended]
  cases crew.batch.stages[k]? with
  | none => simp
  | some stage => cases stage <;> simp [Schedule.hasStarted, hasEnded, Schedule.isRunning]

/-- The number of commands at work among a number of commands. -/
def atWork (count : Nat) (events : List Event) : Nat :=
  (List.range count).countP (isAtWork events)

theorem atWork_eq {schedule : Schedule} {events : List Event} {crew : Crew σ}
    (h : Accounted schedule events crew) :
    atWork crew.batch.stages.length events = Schedule.busy crew.batch.stages := by
  rw [atWork, Schedule.busy_eq_countP_range]
  exact List.countP_congr fun k _ => by rw [isAtWork_eq h]

/-- Whether workers keep to their number: those at work have a permit each and the other permits are
left for those that wait; only they send requests, and no command starts twice or is left out. -/
structure IsBounded (limit count : Nat) (schedule : Schedule) (events : List Event)
    (crew : Crew σ) : Prop where
  bounded : atWork count events ≤ limit
  permits : crew.permits + atWork count events = limit
  free : ∀ k work, crew.batch.stages[k]? = some (.queued work) → atWork count events < limit →
    ∃ crew', Step schedule crew (.starts k) crew'
  requests : ∀ event crew', Step schedule crew event crew' →
    crew'.batch.world.arrivals ≠ crew.batch.world.arrivals →
      ∃ k < count, isAtWork events k = true ∧ (event = .resumes k ∨ event = .ends k)
  once : ∀ k, events.count (.starts k) ≤ 1
  all : crew.batch.IsOver schedule false → ∀ k < count, events.count (.starts k) = 1

theorem isBounded_of_runs {schedule : Schedule} {runner : JobRunner} {commands : List Command}
    {world : World σ} {events : List Event} {crew : Crew σ}
    (h : Runs schedule (initial runner commands schedule world) events crew) :
    IsBounded schedule.workers commands.length schedule events crew := by
  have haccounted := accounted_of_runs h
  have hlength : crew.batch.stages.length = commands.length :=
    (Batch.tracked_of_history (history_of_runs h)
      (Batch.tracked_initial runner commands world)).length_stages
  have hatWork := atWork_eq haccounted
  rw [hlength] at hatWork
  have hpermits := haccounted.permits
  rw [← hatWork] at hpermits
  refine ⟨by omega, hpermits, ?_, ?_, ?_, ?_⟩
  · intro k work hk hlt
    obtain ⟨n, hleft⟩ : ∃ n, crew.permits = n + 1 := ⟨crew.permits - 1, by omega⟩
    exact ⟨_, .starts hk hleft⟩
  · intro event crew' hstep harrivals
    have hworking : ∀ {k wake work}, crew.batch.stages[k]? = some (.running wake work) →
        k < commands.length ∧ isAtWork events k = true := by
      intro k wake work hk
      refine ⟨hlength ▸ (List.getElem?_eq_some_iff.1 hk).1, ?_⟩
      rw [isAtWork_eq haccounted, hk]
      rfl
    cases hstep with
    | resumes hk hwake hadvance => exact ⟨_, (hworking hk).1, (hworking hk).2, .inl rfl⟩
    | ends hk hwake hadvance => exact ⟨_, (hworking hk).1, (hworking hk).2, .inr rfl⟩
    | passes span => exact absurd rfl harrivals
    | submits hk hdue => exact absurd rfl harrivals
    | starts hk hleft => exact absurd rfl harrivals
    | breaksOff hk => exact absurd rfl harrivals
    | joins hsubmitted hk hnew => exact absurd rfl harrivals
  · intro k
    rw [haccounted.started k]
    exact Bool.toNat_le _
  · intro hover k hk
    rw [← hlength] at hk
    have hended : hasEnded crew.batch.stages[k] = true := hover.decided _ (List.getElem_mem hk)
    rw [haccounted.started k, List.getElem?_eq_getElem hk]
    cases hstage : crew.batch.stages[k] with
    | ended result => rfl
    | upcoming work => exact absurd hended (by simp [hstage, hasEnded])
    | queued work => exact absurd hended (by simp [hstage, hasEnded])
    | running wake work => exact absurd hended (by simp [hstage, hasEnded])

end Crew

/-- However the events of a batch follow each other, there are never more commands at work than
workers, none starts twice, and all have started when the batch has run to its end. Every history of
the batch is one of these, and so is running it. -/
theorem workers_areBounded (runner : JobRunner) (commands : List Command) (workers : Nat)
    (interval : Duration) (world : World σ) :
    (runner.schedule? commands.length workers interval world.clock = none →
      runner.run commands workers interval world = (none, world)) ∧
    ∀ schedule, runner.schedule? commands.length workers interval world.clock = some schedule →
      (∀ events crew, Crew.Runs schedule (.initial runner commands schedule world) events crew →
        Crew.IsBounded (max workers 1) commands.length schedule events crew) ∧
      (∀ batch, Batch.History schedule (.initial runner commands world) batch →
        ∃ events crew, Crew.Runs schedule (.initial runner commands schedule world) events crew ∧
          crew.batch = batch) ∧
      ∃ events crew timedOut,
        Crew.Runs schedule (.initial runner commands schedule world) events crew ∧
        crew.batch.IsOver schedule timedOut ∧
        runner.run commands workers interval world =
          (some (crew.batch.report world.clock commands timedOut), crew.batch.world) := by
  refine ⟨?_, ?_⟩
  · intro hnone
    rw [run]
    simp only [hnone]
  · intro schedule hschedule
    have hworkers : schedule.workers = max workers 1 := by
      obtain ⟨_, -, -, rfl⟩ := schedule?_eq_some_iff.1 hschedule
      rfl
    refine ⟨?_, fun batch => Crew.exists_runs_of_history, ?_⟩
    · intro events crew hruns
      exact hworkers ▸ Crew.isBounded_of_runs hruns
    · obtain ⟨batch, ⟨events, crew, hruns, -, rfl⟩, -, hover, hrun⟩ :=
        Crew.exists_reaches_of_run hschedule
      exact ⟨events, crew, _, hruns, hover, hrun⟩

/-- Two commands without workers, and a second for both: there is one worker all the same, and
commands are never at work together. -/
theorem exists_bounded_workers :
    ∃ schedule : Schedule,
      schedule? ⟨⟨⟨"http://10.0.0.1:8096/", .integration, "", "", .zero, .zero, .zero⟩, none, none⟩,
        none, .ofSeconds 1⟩ 2 0 .zero ⟨0⟩ = some schedule ∧
      ∃ (events : List Event) (crew : Crew Unit),
        Crew.Runs schedule (.initial ⟨⟨⟨"http://10.0.0.1:8096/", .integration, "", "", .zero, .zero,
          .zero⟩, none, none⟩, none, .ofSeconds 1⟩ [.named "listUsers", .named "listDomains"]
            schedule
            (⟨⟨0⟩, fun _ _ => (⟨.zero, none⟩, ()), (), .up, fun _ => 0, 0, []⟩ : World Unit))
          events crew ∧
        Crew.atWork 2 events ≤ 1 ∧ events.count (.starts 0) ≤ 1 ∧ events.count (.starts 1) ≤ 1 := by
  refine ⟨_, rfl, ?_⟩
  obtain ⟨-, hall⟩ := workers_areBounded
    ⟨⟨⟨"http://10.0.0.1:8096/", .integration, "", "", .zero, .zero, .zero⟩, none, none⟩, none,
      .ofSeconds 1⟩ [.named "listUsers", .named "listDomains"] 0 .zero
      (⟨⟨0⟩, fun _ _ => (⟨.zero, none⟩, ()), (), .up, fun _ => 0, 0, []⟩ : World Unit)
  obtain ⟨hbounded, -, events, crew, -, hruns, -, -⟩ := hall _ rfl
  have hcrew := hbounded events crew hruns
  exact ⟨events, crew, hruns, hcrew.bounded, hcrew.once 0, hcrew.once 1⟩

end JobRunner

end ControlPlane
