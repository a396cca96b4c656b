import ControlPlane.Proofs.Courses
import ControlPlane.Proofs.LoneCommands
import Mathlib.Data.List.Perm.Lattice

/-!
# The requests of a pool

The pieces of work in a pool send their requests to one server, one between the other. A log says
whose they are. If each piece of work has a course of its own, whatever the others do, it is on its
way along it all the time (`Schedule.Sending`), and when it has ended its entries in the log are the
requests of that course.

Where the courses depend on time, the pool must go on by its schedule; where they do not, its events
may follow each other in any order.

So a batch that runs to its end (`JobRunner.RunsThrough`, or in whichever order
`JobRunner.CompletesIn`) sends for each of its commands what the command sends whenever it is run,
and a command that is repeated has its requests sent once for each repetition
(`JobRunner.exists_copies_of_runsThrough`, `JobRunner.exists_copies_of_completesIn`).
-/

namespace ControlPlane

/-! ## Logs with several authors -/

section Logs

variable {α β : Type}

/-- The entries of one author in a log, in order. -/
def entriesOf (k : Nat) (log : List (Nat × α)) : List α :=
  (log.filter fun entry => entry.1 = k).map Prod.snd

theorem entriesOf_append (k : Nat) (log more : List (Nat × α)) :
    entriesOf k (log ++ more) = entriesOf k log ++ entriesOf k more := by
  simp only [entriesOf, List.filter_append, List.map_append]

theorem entriesOf_own (k : Nat) (xs : List α) : entriesOf k (xs.map fun x => (k, x)) = xs := by
  simp [entriesOf, List.filter_map, Function.comp_def]

theorem entriesOf_other {j k : Nat} (h : j ≠ k) (xs : List α) :
    entriesOf k (xs.map fun x => (j, x)) = [] := by
  simp [entriesOf, h]

/-- A log is made of the entries of its authors. -/
theorem perm_entriesOf {n : Nat} {log : List (Nat × α)} (h : ∀ entry ∈ log, entry.1 < n) :
    (log.map Prod.snd).Perm ((List.range n).flatMap fun k => entriesOf k log) := by
  induction n generalizing log with
  | zero =>
    cases log with
    | nil => exact .nil
    | cons entry _ => exact absurd (h entry (List.mem_cons_self ..)) (Nat.not_lt_zero _)
  | succ n ih =>
    -- the entries of the last author are put at the end
    have hothers : ∀ k < n, entriesOf k (log.filter fun entry => !decide (entry.1 = n)) =
        entriesOf k log := by
      intro k hk
      rw [entriesOf, List.filter_filter]
      refine congrArg (List.map Prod.snd) (List.filter_congr fun entry _ => ?_)
      by_cases hentry : entry.1 = k
      · simp [hentry, Nat.ne_of_lt hk]
      · simp [hentry]
    have hrest : ((log.filter fun entry => !decide (entry.1 = n)).map Prod.snd).Perm
        ((List.range n).flatMap fun k => entriesOf k log) := by
      have hbelow := @ih (log.filter fun entry => !decide (entry.1 = n)) fun entry hentry => by
        obtain ⟨hmem, hne⟩ := List.mem_filter.1 hentry
        have hlt := h entry hmem
        have hne : entry.1 ≠ n := by simpa using hne
        omega
      refine hbelow.trans (.of_eq ?_)
      exact List.flatMap_congr fun k hk => hothers k (List.mem_range.1 hk)
    have hsplit := (List.filter_append_perm (fun entry => decide (entry.1 = n)) log).map Prod.snd
    rw [List.map_append] at hsplit
    rw [List.range_succ, List.flatMap_append, List.flatMap_singleton]
    exact hsplit.symm.trans (List.perm_append_comm.trans (hrest.append_right _))

/-- A list that is made of a number of copies of a part, mixed: each copy is in order. -/
def Copies (n : Nat) (part whole : List α) : Prop :=
  ∃ log : List (Nat × α), log.map Prod.snd = whole ∧ (∀ entry ∈ log, entry.1 < n) ∧
    ∀ k < n, entriesOf k log = part

theorem Copies.perm {n : Nat} {part whole : List α} (h : Copies n part whole) :
    whole.Perm (List.replicate n part).flatten := by
  obtain ⟨log, rfl, hauthors, hparts⟩ := h
  refine (perm_entriesOf hauthors).trans (.of_eq ?_)
  rw [List.flatMap_congr fun k hk => hparts k (List.mem_range.1 hk), List.flatMap_def]
  simp

/-- A single copy is the part itself. -/
theorem copies_one_iff {part whole : List α} : Copies 1 part whole ↔ whole = part := by
  constructor
  · rintro ⟨log, rfl, hauthors, hparts⟩
    rw [← hparts 0 Nat.zero_lt_one, entriesOf, List.filter_eq_self.2]
    intro entry hentry
    exact decide_eq_true (Nat.lt_one_iff.1 (hauthors entry hentry))
  · rintro rfl
    refine ⟨whole.map fun x => (0, x), by simp [Function.comp_def], by simp, ?_⟩
    intro k hk
    obtain rfl := Nat.lt_one_iff.1 hk
    exact entriesOf_own 0 whole

theorem Copies.map {n : Nat} {part whole : List α} (h : Copies n part whole) (f : α → β) :
    Copies n (part.map f) (whole.map f) := by
  obtain ⟨log, rfl, hauthors, hparts⟩ := h
  refine ⟨log.map fun entry => (entry.1, f entry.2), by simp [Function.comp_def], ?_, ?_⟩
  · intro entry hentry
    obtain ⟨own, hown, rfl⟩ := List.mem_map.1 hentry
    exact hauthors own hown
  · intro k hk
    rw [← hparts k hk]
    simp [entriesOf, List.filter_map, Function.comp_def]

end Logs

/-! ## Work and what is left of its course -/

variable {α σ : Type} {oracle : Request → Delivery × Duration} {timed : Bool}

/-- What gets through of a number of copies is as many copies of what gets through of one. -/
theorem Copies.reached {n : Nat} {requests all : List Request} (h : Copies n requests all)
    (link : Link) : Copies n (World.reached link requests) (World.reached link all) := by
  cases link with
  | up => exact h.map fun request => request.url.target
  | down => exact ⟨[], rfl, by simp, fun _ _ => rfl⟩

/-- Which requests a piece of work has yet to send. Work that waits sends them whenever it is
started. -/
def Stage.Plays (oracle : Request → Delivery × Duration) (timed : Bool) (requests : List Request) :
    Stage α → Prop
  | .upcoming work | .queued work => ∀ now, work.PlaysFrom oracle timed now requests
  | .running wake work => work.PlaysFrom oracle timed wake requests
  | .ended (some _) => requests = []
  | .ended none => True

namespace Schedule

variable {schedule : Schedule} {courses : Nat → List Request} {stages stages' : List (Stage α)}
  {start world world' : World σ} {log : List (Nat × Request)}

/-- Work that goes on, and does so at its time if time matters, sends the first of its requests, and
the others are left. -/
theorem plays_perform {stage : Stage α} {requests : List Request}
    (h : stage.Plays oracle timed requests) (hfollows : world.Follows oracle timed)
    (hwake : timed = true → ∀ wake work, stage = .running wake work → wake = world.clock) :
    (perform stage world).2.Follows oracle timed ∧ (perform stage world).2.link = world.link ∧
      ∃ sent rest, requests = sent ++ rest ∧
        world.Receives (perform stage world).2 (World.reached world.link sent) ∧
        (perform stage world).1.Plays oracle timed rest := by
  have hnothing := World.receives_nothing world.link world
  cases stage with
  | upcoming work => exact ⟨hfollows, rfl, [], requests, rfl, hnothing, h⟩
  | queued work => exact ⟨hfollows, rfl, [], requests, rfl, hnothing, h _⟩
  | running wake work =>
    obtain ⟨now?, rfl, hknown, P, hplays⟩ := h
    have hshows : world.Shows now? := by
      intro known hmem
      rw [hknown known hmem, hwake (Option.isSome_of_mem hmem) wake work rfl]
    have hfollows' := Dialogue.gives_advance work hfollows
    obtain ⟨hlink, sent, rest, hsplit, hreceives, hrest⟩ :=
      Dialogue.plays_advance hplays hshows hfollows
    rw [perform]
    revert hfollows' hlink hreceives hrest
    rcases work.advance world with ⟨result | ⟨wake', left⟩, world'⟩
    all_goals intro hfollows' hlink hreceives hrest
    · refine ⟨hfollows', hlink, sent, rest, hsplit, hreceives, ?_⟩
      cases result with
      | none => exact trivial
      | some _ => exact hrest
    · exact ⟨hfollows', hlink, sent, rest, hsplit, hreceives, hrest⟩
  | ended result => exact ⟨hfollows, rfl, [], requests, rfl, hnothing, h⟩

/-- The log of a pool on its way: what the server has received since the start, and for each piece
of work the first requests of its course, with the others left to it. -/
structure Sending (oracle : Request → Delivery × Duration) (timed : Bool)
    (courses : Nat → List Request) (start : World σ) (stages : List (Stage α)) (world : World σ)
    (log : List (Nat × Request)) : Prop where
  follows : world.Follows oracle timed
  link : world.link = start.link
  received : start.Receives world (World.reached start.link (log.map Prod.snd))
  authors : ∀ entry ∈ log, entry.1 < stages.length
  courses : ∀ (k : Nat) stage, stages[k]? = some stage →
    ∃ rest, courses k = entriesOf k log ++ rest ∧ stage.Plays oracle timed rest

/-- When all work has ended with a value, the entries of each piece are its course. -/
theorem Sending.entriesOf_eq (h : Sending oracle timed courses start stages world log)
    (hended : ∀ stage ∈ stages, ∃ a, stage = .ended (some a)) {k : Nat} (hk : k < stages.length) :
    entriesOf k log = courses k := by
  obtain ⟨rest, hcourse, hrest⟩ := h.courses k _ (List.getElem?_eq_getElem hk)
  obtain ⟨a, ha⟩ := hended _ (List.getElem_mem hk)
  rw [ha] at hrest
  obtain rfl : rest = [] := hrest
  rw [hcourse, List.append_nil]

/-- The clock is of no account for the log. -/
theorem Sending.congr (h : Sending oracle timed courses start stages world log) (clock : Instant) :
    Sending oracle timed courses start stages { world with clock } log :=
  ⟨h.follows.congr rfl rfl, h.link, h.received, h.authors, h.courses⟩

/-- A piece of work comes to a stage with some of its requests sent. Only it adds to the log. -/
theorem Sending.set (h : Sending oracle timed courses start stages world log) {k : Nat}
    {stage : Stage α} {sent left : List Request} (hk : k < stages.length)
    (hcourse : courses k = entriesOf k log ++ (sent ++ left))
    (hplays : stage.Plays oracle timed left) (hfollows : world'.Follows oracle timed)
    (hlink : world'.link = world.link)
    (hreceives : world.Receives world' (World.reached world.link sent)) :
    Sending oracle timed courses start (stages.set k stage) world'
      (log ++ sent.map fun request => (k, request)) := by
  refine ⟨hfollows, hlink.trans h.link, ?_, ?_, ?_⟩
  · rw [h.link] at hreceives
    have hall := h.received.trans hreceives
    rw [← World.reached_append] at hall
    rw [List.map_append, List.map_map, Function.comp_def, List.map_id']
    exact hall
  · intro entry hentry
    rw [List.length_set]
    rcases List.mem_append.1 hentry with hbefore | hnew
    · exact h.authors entry hbefore
    · obtain ⟨request, -, rfl⟩ := List.mem_map.1 hnew
      exact hk
  · intro j other hj
    rw [entriesOf_append]
    by_cases hkj : k = j
    · subst hkj
      rw [List.getElem?_set_self hk, Option.some.injEq] at hj
      rw [entriesOf_own]
      exact ⟨left, hcourse.trans (List.append_assoc ..).symm, hj ▸ hplays⟩
    · rw [List.getElem?_set_ne hkj] at hj
      rw [entriesOf_other hkj, List.append_nil]
      exact h.courses j other hj

theorem exists_sending_perform (h : Sending oracle timed courses start stages world log) {k : Nat}
    {stage : Stage α} (hk : stages[k]? = some stage)
    (hwake : timed = true → ∀ wake work, stage = .running wake work → wake = world.clock) :
    ∃ more, Sending oracle timed courses start (stages.set k (perform stage world).1)
      (perform stage world).2 (log ++ more) := by
  obtain ⟨hlt, -⟩ := List.getElem?_eq_some_iff.1 hk
  obtain ⟨rest, hcourse, hplays⟩ := h.courses k stage hk
  obtain ⟨hfollows, hlink, sent, left, rfl, hreceives, hleft⟩ :=
    plays_perform hplays h.follows hwake
  exact ⟨_, h.set hlt hcourse hleft hfollows hlink hreceives⟩

/-! ### By the schedule -/

theorem exists_sending_of_step (h : Sending oracle timed courses start stages world log)
    (hstep : schedule.step stages world = some (stages', world')) :
    ∃ more, Sending oracle timed courses start stages' world' (log ++ more) := by
  obtain ⟨t, k, stage, hnext, hk, -, rfl, rfl⟩ := step_eq_some hstep
  refine exists_sending_perform (h.congr t) hk ?_
  rintro - wake work rfl
  exact wake_of_next hnext hk

theorem exists_sending_drive (h : Sending oracle timed courses start stages world log) :
    ∃ more, Sending oracle timed courses start (schedule.drive stages world).1
      (schedule.drive stages world).2 (log ++ more) := by
  fun_induction drive schedule stages world generalizing log with
  | case1 => exact ⟨[], (List.append_nil log).symm ▸ h⟩
  | case2 stages world stages' world' hstep ih =>
    obtain ⟨sent, hsent⟩ := exists_sending_of_step h hstep
    obtain ⟨more, hmore⟩ := ih hsent
    exact ⟨sent ++ more, List.append_assoc log sent more ▸ hmore⟩

/-! ### In any order -/

variable {pool pool' : List (Stage α) × World σ}

/-- Where time does not matter, a piece of work may go on late, or break off. -/
theorem exists_sending_of_happens (h : Sending oracle false courses start pool.1 pool.2 log)
    (hhappens : schedule.Happens pool pool') :
    ∃ more, Sending oracle false courses start pool'.1 pool'.2 (log ++ more) := by
  cases hhappens with
  | passes stages world span => exact ⟨[], (List.append_nil log).symm ▸ h.congr _⟩
  | goesOn hk hready => exact exists_sending_perform h hk fun htimed => absurd htimed (by simp)
  | @breaksOff stages world k wake work hk =>
    obtain ⟨hlt, -⟩ := List.getElem?_eq_some_iff.1 hk
    obtain ⟨rest, hcourse, -⟩ := h.courses k _ hk
    have hbroken : (Stage.ended none : Stage α).Plays oracle false rest := trivial
    exact ⟨_, @Sending.set _ _ _ _ _ _ _ _ _ _ h k _ [] rest hlt hcourse hbroken h.follows rfl
      (World.receives_nothing _ _)⟩

end Schedule

/-! ## Batches that come to their end -/

namespace JobRunner

variable {runner : JobRunner} {commands : List Command} {workers : Nat} {interval : Duration}
  {world world' : World σ} {report : BatchReport}

theorem Batch.exists_sending_of_history {schedule : Schedule} {courses : Nat → List Request}
    {start : World σ} {batch batch' : Batch σ} {log : List (Nat × Request)}
    (hsending : Schedule.Sending oracle false courses start batch.stages batch.world log)
    (h : Batch.History schedule batch batch') :
    ∃ more, Schedule.Sending oracle false courses start batch'.stages batch'.world
      (log ++ more) := by
  induction h with
  | refl => exact ⟨[], (List.append_nil log).symm ▸ hsending⟩
  | tail _ hlast ih =>
    obtain ⟨sent, hsent⟩ := ih
    cases hlast with
    | works hhappens =>
      obtain ⟨more, hmore⟩ := Schedule.exists_sending_of_happens hsent hhappens
      exact ⟨sent ++ more, List.append_assoc log sent more ▸ hmore⟩
    | joins => exact ⟨sent, hsent⟩

/-- A batch can come to its end, in whichever order, with this report and in this world: nothing was
cut off, and every command has an outcome. -/
def CompletesIn (runner : JobRunner) (commands : List Command) (workers : Nat) (interval : Duration)
    (world : World σ) (report : BatchReport) (world' : World σ) : Prop :=
  ∃ schedule batch, runner.schedule? commands.length workers interval world.clock = some schedule ∧
    Crew.Reaches runner commands schedule world batch ∧ batch.IsOver schedule false ∧
    (∀ k : Nat, batch.stages[k]? ≠ some (Stage.ended none)) ∧
    report = batch.report world.clock commands false ∧ world' = batch.world

theorem CompletesIn.completes
    (h : runner.CompletesIn commands workers interval world report world') :
    runner.Completes commands workers interval world report := by
  obtain ⟨schedule, _, hschedule, hreaches, hover, houtcomes, rfl, -⟩ := h
  obtain ⟨events, crew, hruns, hunbroken, rfl⟩ := hreaches
  exact ⟨schedule, events, crew, hschedule, hruns, hunbroken, hover, houtcomes, rfl⟩

/-- A batch runs to its end: its deadline can be represented, a pool can have its workers, nothing
is cut off, and no command breaks off. -/
def RunsThrough (runner : JobRunner) (commands : List Command) (workers : Nat)
    (interval : Duration) (world : World σ) : Prop :=
  ∃ schedule, runner.schedule? commands.length workers interval world.clock = some schedule ∧
    ∀ stage ∈ (schedule.drive (runner.stagesFrom 0 commands) world).1,
      ∃ outcome, stage = .ended (some outcome)

theorem isCutShort_of_outcomes {stages : List (Stage JobOutcome)}
    (h : ∀ stage ∈ stages, ∃ outcome, stage = .ended (some outcome)) :
    isCutShort stages = false := by
  refine isCutShort_of_ended fun stage hstage => ?_
  obtain ⟨outcome, rfl⟩ := h stage hstage
  exact ⟨some outcome, rfl⟩

/-- Running a batch to its end is one of the ways in which it can come to it. -/
theorem exists_completesIn_of_runsThrough
    (h : runner.RunsThrough commands workers interval world) :
    ∃ report world', runner.run commands workers interval world = (some report, world') ∧
      runner.CompletesIn commands workers interval world report world' := by
  obtain ⟨schedule, hschedule, hended⟩ := h
  obtain ⟨batch, hreaches, hstages, hover, hrun⟩ := Crew.exists_reaches_of_run hschedule
  rw [← hstages] at hended
  rw [isCutShort_of_outcomes hended] at hover hrun
  refine ⟨_, _, hrun, schedule, batch, hschedule, hreaches, hover, ?_, rfl, rfl⟩
  intro k hk
  obtain ⟨outcome, houtcome⟩ := hended _ (List.mem_of_getElem? hk)
  exact absurd houtcome (by simp)

theorem playsFrom_runOne {command : Command} {requests : List Request}
    {result : Except ClientError CommandOutput} {span : Duration}
    (h : Action.HasCourse oracle timed (runner.client.executeRaw command) requests result span)
    (index : Nat) (now : Instant) :
    (runner.runOne index command).PlaysFrom oracle timed now requests := by
  obtain ⟨now?, htimed, hknown⟩ := Instant.exists_known timed now
  refine ⟨now?, htimed, hknown, fun _ _ => True, .readClock fun _ _ => ?_⟩
  rw [← List.append_nil requests]
  exact Dialogue.plays_bind (h now? htimed) fun _ _ _ => .readClock fun _ _ => .done trivial

/-- The commands of a batch have these courses, whenever they are run. -/
def HaveCourses (runner : JobRunner) (oracle : Request → Delivery × Duration) (timed : Bool)
    (commands : List Command) (courses : Nat → List Request) : Prop :=
  ∀ (k : Nat) command, commands[k]? = some command → ∃ result span,
    Action.HasCourse oracle timed (runner.client.executeRaw command) (courses k) result span

/-- Before anything has happened, the log is empty. -/
theorem sending_initial {courses : Nat → List Request} (hfollows : world.Follows oracle timed)
    (hcourses : runner.HaveCourses oracle timed commands courses) :
    Schedule.Sending oracle timed courses world (runner.stagesFrom 0 commands) world [] := by
  refine ⟨hfollows, rfl, World.receives_nothing _ _, by simp, ?_⟩
  intro k stage hk
  rw [getElem?_stagesFrom, Option.map_eq_some_iff] at hk
  obtain ⟨command, hcommand, rfl⟩ := hk
  obtain ⟨result, span, hcourse⟩ := hcourses k command hcommand
  exact ⟨courses k, rfl, playsFrom_runOne hcourse _⟩

/-- The requests that a server receives of a batch are those of its commands, each of them in its
order. -/
def SendsCourses (courses : Nat → List Request) (count : Nat) (world world' : World σ) : Prop :=
  ∃ log : List (Nat × Request), (∀ entry ∈ log, entry.1 < count) ∧
    (∀ k < count, entriesOf k log = courses k) ∧
    world.Receives world' (World.reached world.link (log.map Prod.snd))

theorem sendsCourses_of_runsThrough {courses : Nat → List Request}
    (hfollows : world.Follows oracle timed)
    (hcourses : runner.HaveCourses oracle timed commands courses)
    (h : runner.RunsThrough commands workers interval world) :
    SendsCourses courses commands.length world
      (runner.run commands workers interval world).2 := by
  obtain ⟨schedule, hschedule, hended⟩ := h
  obtain ⟨log, hlog⟩ := @Schedule.exists_sending_drive _ _ _ _ schedule _ _ _ _ _
    (sending_initial hfollows hcourses)
  have hlength := Schedule.length_drive schedule (runner.stagesFrom 0 commands) world
  rw [length_stagesFrom] at hlength
  rw [run_eq hschedule]
  simp only [closing, isCutShort_of_outcomes hended, Bool.false_eq_true, if_false]
  rw [List.nil_append] at hlog
  exact ⟨log, hlength ▸ hlog.authors, fun k hk => hlog.entriesOf_eq hended (hlength.symm ▸ hk),
    hlog.received⟩

/-- Where time does not matter, this is so in whichever order the batch came to its end. -/
theorem sendsCourses_of_completesIn {courses : Nat → List Request}
    (hfollows : world.Follows oracle false)
    (hcourses : runner.HaveCourses oracle false commands courses)
    (h : runner.CompletesIn commands workers interval world report world') :
    SendsCourses courses commands.length world world' := by
  obtain ⟨schedule, batch, hschedule, ⟨events, crew, hruns, -, rfl⟩, hover, hunbroken, -, rfl⟩ := h
  have hhistory := Crew.history_of_runs hruns
  obtain ⟨log, hlog⟩ := Batch.exists_sending_of_history (sending_initial hfollows hcourses) hhistory
  have hlength := (Batch.tracked_of_history hhistory
    (Batch.tracked_initial runner commands world)).length_stages
  have hended : ∀ stage ∈ crew.batch.stages, ∃ outcome, stage = .ended (some outcome) := by
    intro stage hmem
    obtain ⟨k, hk⟩ := List.mem_iff_getElem?.1 hmem
    have hover := hover.decided stage hmem
    cases stage with
    | upcoming work => exact absurd hover (by simp [hasEnded])
    | queued work => exact absurd hover (by simp [hasEnded])
    | running wake work => exact absurd hover (by simp [hasEnded])
    | ended result =>
      cases result with
      | none => exact absurd hk (hunbroken k)
      | some outcome => exact ⟨outcome, rfl⟩
  rw [List.nil_append] at hlog
  exact ⟨log, hlength ▸ hlog.authors, fun k hk => hlog.entriesOf_eq hended (hlength.symm ▸ hk),
    hlog.received⟩

section Repeated

variable {n : Nat} {command : Command} {requests : List Request}
  {result : Except ClientError CommandOutput} {span : Duration}

theorem haveCourses_replicate
    (h : Action.HasCourse oracle timed (runner.client.executeRaw command) requests result span) :
    runner.HaveCourses oracle timed (List.replicate n command) fun _ => requests := by
  intro k own hown
  rw [List.eq_of_mem_replicate (List.mem_of_getElem? hown)]
  exact ⟨result, span, h⟩

theorem exists_copies_of_sendsCourses
    (h : SendsCourses (fun _ => requests) (List.replicate n command).length world world') :
    ∃ all, Copies n (World.reached world.link requests) all ∧ world.Receives world' all := by
  rw [List.length_replicate] at h
  obtain ⟨log, hauthors, hparts, hreceives⟩ := h
  exact ⟨_, Copies.reached ⟨log, rfl, hauthors, hparts⟩ world.link, hreceives⟩

/-- A command that is repeated has its requests sent once for each time. -/
theorem exists_copies_of_runsThrough (hfollows : world.Follows oracle timed)
    (hcourse : Action.HasCourse oracle timed (runner.client.executeRaw command) requests result
      span)
    (h : runner.RunsThrough (List.replicate n command) workers interval world) :
    ∃ all, Copies n (World.reached world.link requests) all ∧
      world.Receives (runner.run (List.replicate n command) workers interval world).2 all :=
  exists_copies_of_sendsCourses
    (sendsCourses_of_runsThrough hfollows (haveCourses_replicate hcourse) h)

/-- Where time does not matter, this is so in whichever order the batch came to its end. -/
theorem exists_copies_of_completesIn (hfollows : world.Follows oracle false)
    (hcourse : Action.HasCourse oracle false (runner.client.executeRaw command) requests result
      span)
    (h : runner.CompletesIn (List.replicate n command) workers interval world report world') :
    ∃ all, Copies n (World.reached world.link requests) all ∧ world.Receives world' all :=
  exists_copies_of_sendsCourses
    (sendsCourses_of_completesIn hfollows (haveCourses_replicate hcourse) h)

end Repeated

/-- A batch that is submitted all at once, with a worker for every command, runs to its end if its
commands ensure to be done by the deadline, and not to break off. -/
theorem runsThrough_of_ensures {schedule : Schedule}
    {answers : Request → Delivery → Duration → Prop}
    {P : Nat → Instant → Option (Except ClientError CommandOutput) → Prop}
    (hschedule : runner.schedule? commands.length workers .zero world.clock = some schedule)
    (hworkers : commands.length ≤ workers) (hgives : world.Gives answers)
    (hensures : ∀ (k : Nat) command, commands[k]? = some command →
      (ExceptT.run (runner.client.executeRaw command)).Ensures answers (P k) world.clock)
    (hdone : ∀ k t output?, P k t output? → t ≤ schedule.deadline ∧ output? ≠ none) :
    runner.RunsThrough commands workers .zero world := by
  refine ⟨schedule, hschedule, ?_⟩
  intro stage hstage
  obtain ⟨outcome?, k, t, output?, rfl, houtput, hmade⟩ :=
    ended_drive_of_ensures hschedule hworkers hgives hensures
      (fun k t output? houtput => (hdone k t output? houtput).1) stage hstage
  cases hmade with
  | none => exact absurd rfl (hdone k t none houtput).2
  | some _ => exact ⟨_, rfl⟩

end JobRunner

end ControlPlane
