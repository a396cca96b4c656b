import ControlPlane.Proofs.BatchTimes
import ControlPlane.Proofs.ParallelRuns

/-!
# Two batches side by side

Pools of like work, in like worlds, do the same things at the same times: what is due next does not
depend on what the work is, only on the stage it has come to (`Schedule.next?_congr`). So two
batches of like runners come to like reports (`JobRunner.alike_run`).

That is so when everything happens as it is due, and in every other order as well: whatever can
happen in one batch can happen in the other, event by event (`Crew.exists_alike_runs`).
-/

namespace ControlPlane

variable {α β σ τ : Type} {like : Likeness} {V : α → β → Prop}

theorem forall₂_set {xs : List α} {ys : List β} (h : List.Forall₂ V xs ys) {x : α} {y : β}
    (hxy : V x y) (k : Nat) : List.Forall₂ V (xs.set k x) (ys.set k y) := by
  induction h generalizing k with
  | nil => exact .nil
  | cons hfirst hrest ih =>
    cases k with
    | zero => exact .cons hxy hrest
    | succ k => exact .cons hfirst (ih k)

/-! ## Like work in stages -/

namespace Dialogue

/-- Two dialogues that have gone on stand at the same point. -/
inductive Progress.Alike (like : Likeness) (V : α → β → Prop) : Progress α → Progress β → Prop
  | ended {result : Option α} {result' : Option β} (h : Option.Rel V result result') :
    Alike like V (.ended result) (.ended result')
  | sleeping (wake : Instant) {rest : Dialogue α} {rest' : Dialogue β}
    (h : rest.Alike like V rest') : Alike like V (.sleeping wake rest) (.sleeping wake rest')

theorem alike_advance {d : Dialogue α} {d' : Dialogue β} (h : d.Alike like V d')
    {world : World σ} {world' : World τ} (hworld : world.Alike like world') :
    Progress.Alike like V (d.advance world).1 (d'.advance world').1 ∧
      (d.advance world).2.Alike like (d'.advance world').2 := by
  induction h generalizing world world' with
  | done h => exact ⟨.ended (.some h), hworld⟩
  | broken => exact ⟨.ended .none, hworld⟩
  | send hurl hpatience hnext _ =>
    obtain ⟨hdelivery, hspan, hafter⟩ := hworld.deliver hurl hpatience
    simp only [advance, hspan, hafter.clock]
    exact ⟨.sleeping _ (hnext _ _ hdelivery), hafter⟩
  | readClock _ ih =>
    simp only [advance, hworld.clock]
    exact ih _ hworld
  | wait span hnext _ =>
    simp only [advance, hworld.clock]
    exact ⟨.sleeping _ hnext, hworld⟩
  | draw _ ih =>
    obtain ⟨hletter, hafter⟩ := hworld.drawOne
    simp only [advance, hletter]
    exact ih _ hafter

end Dialogue

/-- Like work that has come to the same stage. -/
inductive Stage.Alike (like : Likeness) (V : α → β → Prop) : Stage α → Stage β → Prop
  | upcoming {work : Dialogue α} {work' : Dialogue β} (h : work.Alike like V work') :
    Alike like V (.upcoming work) (.upcoming work')
  | queued {work : Dialogue α} {work' : Dialogue β} (h : work.Alike like V work') :
    Alike like V (.queued work) (.queued work')
  | running (wake : Instant) {work : Dialogue α} {work' : Dialogue β}
    (h : work.Alike like V work') : Alike like V (.running wake work) (.running wake work')
  | ended {result : Option α} {result' : Option β} (h : Option.Rel V result result') :
    Alike like V (.ended result) (.ended result')

namespace Schedule

variable {schedule : Schedule} {stages : List (Stage α)} {stages' : List (Stage β)}
  {world : World σ} {world' : World τ}

/-- Whether work waits or is being done does not depend on what it is. -/
theorem flags_congr {stage : Stage α} {stage' : Stage β} (h : stage.Alike like V stage') :
    isRunning stage = isRunning stage' ∧ isQueued stage = isQueued stage' := by
  cases h <;> exact ⟨rfl, rfl⟩

theorem due?_congr {stage : Stage α} {stage' : Stage β} (h : stage.Alike like V stage')
    (index : Nat) : schedule.due? index stage = schedule.due? index stage' := by
  cases h <;> rfl

theorem busy_congr (h : List.Forall₂ (Stage.Alike like V) stages stages') :
    busy stages = busy stages' := by
  induction h with
  | nil => rfl
  | cons hstage _ ih =>
    simp only [busy] at ih
    simp only [busy, List.countP_cons, (flags_congr hstage).1, ih]

theorem findIdx?_isQueued_congr (h : List.Forall₂ (Stage.Alike like V) stages stages') :
    stages.findIdx? isQueued = stages'.findIdx? isQueued := by
  induction h with
  | nil => rfl
  | cons hstage _ ih => simp only [List.findIdx?_cons, (flags_congr hstage).2, ih]

theorem earliest_congr (h : List.Forall₂ (Stage.Alike like V) stages stages') (index : Nat) :
    schedule.earliest index stages = schedule.earliest index stages' := by
  induction h generalizing index with
  | nil => rfl
  | cons hstage _ ih => simp only [earliest, due?_congr hstage, ih]

/-- What happens next, and when, does not depend on what the work is. -/
theorem next?_congr (h : List.Forall₂ (Stage.Alike like V) stages stages') (now : Instant) :
    schedule.next? stages now = schedule.next? stages' now := by
  simp only [next?, startable?, busy_congr h, findIdx?_isQueued_congr h, earliest_congr h]

theorem alike_perform {stage : Stage α} {stage' : Stage β} (h : stage.Alike like V stage')
    (hworld : world.Alike like world') :
    (perform stage world).1.Alike like V (perform stage' world').1 ∧
      (perform stage world).2.Alike like (perform stage' world').2 := by
  cases h with
  | upcoming hwork => exact ⟨.queued hwork, hworld⟩
  | queued hwork =>
    simp only [perform, hworld.clock]
    exact ⟨.running _ hwork, hworld⟩
  | running wake hwork =>
    obtain ⟨hprogress, hafter⟩ := Dialogue.alike_advance hwork hworld
    simp only [perform]
    revert hprogress hafter
    rcases Dialogue.advance _ world with ⟨progress, _⟩
    rcases Dialogue.advance _ world' with ⟨progress', _⟩
    intro hprogress hafter
    cases hprogress with
    | ended hresult => exact ⟨.ended hresult, hafter⟩
    | sleeping wake hrest => exact ⟨.running wake hrest, hafter⟩
  | ended hresult => exact ⟨.ended hresult, hworld⟩

/-- Like pools take like steps, or both take none. -/
theorem alike_step (schedule : Schedule)
    (h : List.Forall₂ (Stage.Alike like V) stages stages')
    (hworld : world.Alike like world') :
    Option.Rel (fun pool pool' => List.Forall₂ (Stage.Alike like V) pool.1 pool'.1 ∧
        pool.2.Alike like pool'.2)
      (schedule.step stages world) (schedule.step stages' world') := by
  simp only [step, ← hworld.clock, ← next?_congr h]
  cases schedule.next? stages world.clock with
  | none => exact .none
  | some event =>
    obtain ⟨t, k⟩ := event
    -- what is due is in the same place of both pools, at the same time
    have hstage := rel_getElem? h k
    cases hk : stages[k]? with
    | none =>
      rw [hk] at hstage
      cases hk' : stages'[k]? with
      | none =>
        simp only [hk, hk']
        exact .none
      | some _ =>
        rw [hk'] at hstage
        cases hstage
    | some stage =>
      rw [hk] at hstage
      cases hk' : stages'[k]? with
      | none =>
        rw [hk'] at hstage
        cases hstage
      | some stage' =>
        rw [hk'] at hstage
        obtain ⟨hstage⟩ := hstage
        obtain ⟨hperform, hafter⟩ := alike_perform hstage (hworld.atClock t)
        simp only [hk, hk']
        cases hstage with
        | ended _ => exact .none
        | upcoming _ => exact .some ⟨forall₂_set h hperform k, hafter⟩
        | queued _ => exact .some ⟨forall₂_set h hperform k, hafter⟩
        | running _ _ => exact .some ⟨forall₂_set h hperform k, hafter⟩

theorem drive_of_step_eq_none (h : schedule.step stages world = none) :
    schedule.drive stages world = (stages, world) := by
  rw [drive]
  split
  · rfl
  · rename_i hsome
    exact absurd (h.symm.trans hsome) (by simp)

/-- Like pools are driven to like ends. -/
theorem alike_drive (schedule : Schedule)
    (h : List.Forall₂ (Stage.Alike like V) stages stages')
    (hworld : world.Alike like world') :
    List.Forall₂ (Stage.Alike like V) (schedule.drive stages world).1
        (schedule.drive stages' world').1 ∧
      (schedule.drive stages world).2.Alike like (schedule.drive stages' world').2 := by
  fun_induction drive schedule stages world generalizing stages' world' with
  | case1 stages world hnone =>
    have hstep := schedule.alike_step h hworld
    rw [hnone] at hstep
    cases hother : schedule.step stages' world' with
    | none =>
      rw [drive_of_step_eq_none hother]
      exact ⟨h, hworld⟩
    | some pool =>
      rw [hother] at hstep
      cases hstep
  | case2 stages world next after hsome ih =>
    have hstep := schedule.alike_step h hworld
    rw [hsome] at hstep
    cases hother : schedule.step stages' world' with
    | none =>
      rw [hother] at hstep
      cases hstep
    | some pool =>
      rw [hother] at hstep
      obtain ⟨hnext, hafter⟩ := hstep
      rw [drive_of_step hother]
      exact ih hnext hafter

end Schedule

/-! ## Like outcomes -/

/-- Two errors that nothing but a likeness of texts tells apart. -/
structure ClientError.Agree (text : String → String → Prop) (error error' : ClientError) :
    Prop where
  kind : error.ctorIdx = error'.ctorIdx
  message : text error.message error'.message
  causes : List.Forall₂ text error.causes error'.causes
  code? : error.code? = error'.code?
  jobId? : error.jobId? = error'.jobId?
  isTimeout : error.isTimeout = error'.isTimeout
  isAuthorizationFailure : error.isAuthorizationFailure = error'.isAuthorizationFailure

/-- The same result, or failures for like reasons. -/
inductive JobResult.Agree (text : String → String → Prop) : JobResult → JobResult → Prop
  | succeeded (body : Json) : Agree text (.succeeded body) (.succeeded body)
  | failed {reason reason' : String} (h : text reason reason') :
    Agree text (.failed reason) (.failed reason')
  | timedOut : Agree text .timedOut .timedOut

/-- The same outcome up to the reason for a failure. -/
structure JobOutcome.Agree (text : String → String → Prop) (outcome outcome' : JobOutcome) :
    Prop where
  index : outcome.index = outcome'.index
  command : outcome.command = outcome'.command
  jobId : outcome.jobId = outcome'.jobId
  started : outcome.started = outcome'.started
  ended : outcome.ended = outcome'.ended
  duration : outcome.duration = outcome'.duration
  result : outcome.result.Agree text outcome'.result
  record : outcome.record = outcome'.record

/-- The same report up to the reasons for failures. -/
structure BatchReport.Agree (text : String → String → Prop) (report report' : BatchReport) :
    Prop where
  outcomes : List.Forall₂ (JobOutcome.Agree text) report.outcomes report'.outcomes
  elapsed : report.elapsed = report'.elapsed

namespace JobRunner

variable {E : ClientError → ClientError → Prop} {text : String → String → Prop}

/-- Two runners whose clients carry out every command alike. -/
structure Alike (like : Likeness) (text : String → String → Prop) (runner runner' : JobRunner) :
    Prop where
  table : runner.table = runner'.table
  batchTimeout : runner.batchTimeout = runner'.batchTimeout
  executeRaw : ∀ command, Action.Alike like (ClientError.Agree text) Eq
    (runner.client.executeRaw command) (runner'.client.executeRaw command)

theorem agree_ofError {error error' : ClientError} (h : error.Agree text error') :
    (JobResult.ofError error).Agree text (.ofError error') := by
  rw [JobResult.ofError, JobResult.ofError, h.isTimeout]
  split
  · exact .timedOut
  · exact .failed h.message

theorem agree_unfinished (hrefl : ∀ reason, text reason reason) (index : Nat) (command : String)
    (started ended : Instant) (timedOut : Bool) :
    (JobOutcome.unfinished index command started ended timedOut).Agree text
      (.unfinished index command started ended timedOut) := by
  refine ⟨rfl, rfl, rfl, rfl, rfl, rfl, ?_, rfl⟩
  cases timedOut with
  | true => exact .timedOut
  | false => exact .failed (hrefl _)

section Runners

variable {runner runner' : JobRunner} (h : runner.Alike like text runner')
include h

theorem alike_runOne (index : Nat) (command : Command) :
    (runner.runOne index command).Alike like (JobOutcome.Agree text)
      (runner'.runOne index command) := by
  refine .readClock fun started =>
    Dialogue.Alike.bind (h.executeRaw command) fun result result' hresult => ?_
  refine .readClock fun ended => .done ?_
  rw [h.table]
  cases hresult with
  | ok houtput =>
    subst houtput
    exact ⟨rfl, rfl, rfl, rfl, rfl, rfl, .succeeded _, rfl⟩
  | error herror =>
    exact ⟨rfl, rfl, herror.jobId?, rfl, rfl, rfl, agree_ofError herror,
      congrArg (recordOf _) herror.jobId?⟩

theorem alike_stagesFrom (index : Nat) (commands : List Command) :
    List.Forall₂ (Stage.Alike like (JobOutcome.Agree text)) (runner.stagesFrom index commands)
      (runner'.stagesFrom index commands) := by
  induction commands generalizing index with
  | nil => exact .nil
  | cons command rest ih => exact .cons (.upcoming (alike_runOne h index command)) (ih _)

end Runners

/-! ## Like reports -/

/-- Two lists of slots with like outcomes in the same places. -/
abbrev Slots.Agree (text : String → String → Prop) (slots slots' : Slots) : Prop :=
  List.Forall₂ (Option.Rel (JobOutcome.Agree text)) slots slots'

theorem agree_emptySlots (count : Nat) : Slots.Agree text (emptySlots count) (emptySlots count) :=
  List.forall₂_same.2 fun slot hslot => by
    rw [List.eq_of_mem_replicate hslot]
    exact .none

theorem agree_takeIn {slots slots' : Slots} (h : Slots.Agree text slots slots')
    {result result' : Option JobOutcome}
    (hresult : Option.Rel (JobOutcome.Agree text) result result') :
    Slots.Agree text (takeIn slots result) (takeIn slots' result') := by
  cases hresult with
  | none => exact h
  | some houtcome =>
    rw [takeIn, takeIn, houtcome.index]
    exact forall₂_set h (.some houtcome) _

theorem agree_gather {stages stages' : List (Stage JobOutcome)}
    (h : List.Forall₂ (Stage.Alike like (JobOutcome.Agree text)) stages stages')
    {slots slots' : Slots} (hslots : Slots.Agree text slots slots') :
    Slots.Agree text (gather slots stages) (gather slots' stages') := by
  induction h generalizing slots slots' with
  | nil => exact hslots
  | cons hstage _ ih =>
    cases hstage with
    | ended hresult => exact ih (agree_takeIn hslots hresult)
    | upcoming _ => exact ih hslots
    | queued _ => exact ih hslots
    | running _ _ => exact ih hslots

theorem agree_outcomesFrom (hrefl : ∀ reason, text reason reason) (start ended : Instant)
    (timedOut : Bool) (index : Nat) (commands : List Command) {slots slots' : Slots}
    (h : Slots.Agree text slots slots') :
    List.Forall₂ (JobOutcome.Agree text) (outcomesFrom start ended timedOut index commands slots)
      (outcomesFrom start ended timedOut index commands slots') := by
  induction commands generalizing index slots slots' with
  | nil => exact .nil
  | cons command rest ih =>
    cases h with
    | nil => exact .nil
    | cons hslot hslots =>
      refine .cons ?_ (ih _ hslots)
      cases hslot with
      | none => exact agree_unfinished hrefl _ _ _ _ _
      | some houtcome => exact houtcome

theorem agree_reportOf (hrefl : ∀ reason, text reason reason) (start ended : Instant)
    (timedOut : Bool) (commands : List Command) {slots slots' : Slots}
    (h : Slots.Agree text slots slots') :
    (reportOf start ended timedOut commands slots).Agree text
      (reportOf start ended timedOut commands slots') :=
  ⟨agree_outcomesFrom hrefl start ended timedOut 0 commands h, rfl⟩

theorem hasEnded_congr {stage stage' : Stage JobOutcome} {V : JobOutcome → JobOutcome → Prop}
    (h : stage.Alike like V stage') : hasEnded stage = hasEnded stage' := by
  cases h <;> rfl

theorem all_hasEnded_congr {stages stages' : List (Stage JobOutcome)}
    (h : List.Forall₂ (Stage.Alike like (JobOutcome.Agree text)) stages stages') :
    stages.all hasEnded = stages'.all hasEnded := by
  induction h with
  | nil => rfl
  | cons hstage _ ih => rw [List.all_cons, List.all_cons, ih, hasEnded_congr hstage]

theorem isCutShort_congr {stages stages' : List (Stage JobOutcome)}
    (h : List.Forall₂ (Stage.Alike like (JobOutcome.Agree text)) stages stages') :
    isCutShort stages = isCutShort stages' := by
  rw [isCutShort, isCutShort, all_hasEnded_congr h]

/-- Batches of like runners in like worlds come to like reports, and leave like worlds behind. -/
theorem alike_run (hrefl : ∀ reason, text reason reason) {runner runner' : JobRunner}
    (h : runner.Alike like text runner') {world : World σ} {world' : World τ}
    (hworld : world.Alike like world') (commands : List Command) (workers : Nat)
    (interval : Duration) :
    Option.Rel (BatchReport.Agree text) (runner.run commands workers interval world).1
        (runner'.run commands workers interval world').1 ∧
      (runner.run commands workers interval world).2.Alike like
        (runner'.run commands workers interval world').2 := by
  have hschedule : runner.schedule? commands.length workers interval world.clock =
      runner'.schedule? commands.length workers interval world'.clock := by
    simp only [schedule?, h.batchTimeout, hworld.clock]
  simp only [run, hschedule]
  cases runner'.schedule? commands.length workers interval world'.clock with
  | none => exact ⟨.none, hworld⟩
  | some schedule =>
    obtain ⟨hstages, hafter⟩ :=
      schedule.alike_drive (alike_stagesFrom h 0 commands) hworld
    have hclosing : (closing schedule
        (schedule.drive (runner.stagesFrom 0 commands) world).1
        (schedule.drive (runner.stagesFrom 0 commands) world).2).Alike like
        (closing schedule (schedule.drive (runner'.stagesFrom 0 commands) world').1
          (schedule.drive (runner'.stagesFrom 0 commands) world').2) := by
      rw [closing, closing, isCutShort_congr hstages]
      split
      · exact hafter.atClock _
      · exact hafter
    refine ⟨.some ?_, hclosing⟩
    simp only [report, hworld.clock, hclosing.clock, isCutShort_congr hstages]
    exact agree_reportOf hrefl _ _ _ _ (agree_gather hstages (agree_emptySlots _))

/-! ## Batches in any order -/

namespace Crew

/-- Two crews whose work has come to the same stages, with like outcomes taken in. -/
structure Alike (like : Likeness) (text : String → String → Prop) (crew : Crew σ)
    (crew' : Crew τ) : Prop where
  stages : List.Forall₂ (Stage.Alike like (JobOutcome.Agree text)) crew.batch.stages
    crew'.batch.stages
  world : crew.batch.world.Alike like crew'.batch.world
  joined : crew.batch.joined = crew'.batch.joined
  slots : Slots.Agree text crew.batch.slots crew'.batch.slots
  permits : crew.permits = crew'.permits

theorem alike_initial {runner runner' : JobRunner} (h : runner.Alike like text runner')
    {world : World σ} {world' : World τ} (hworld : world.Alike like world')
    (commands : List Command) (schedule : Schedule) :
    (initial runner commands schedule world).Alike like text
      (initial runner' commands schedule world') :=
  ⟨alike_stagesFrom h 0 commands, hworld, rfl, agree_emptySlots _, rfl⟩

section Steps

variable {schedule : Schedule} {event : Event} {crew next : Crew σ} {crew' : Crew τ}

theorem Alike.exists_stage (h : crew.Alike like text crew') {k : Nat} {stage : Stage JobOutcome}
    (hk : crew.batch.stages[k]? = some stage) :
    ∃ stage', crew'.batch.stages[k]? = some stage' ∧
      stage.Alike like (JobOutcome.Agree text) stage' := by
  have hrel := rel_getElem? h.stages k
  rw [hk] at hrel
  generalize crew'.batch.stages[k]? = found at hrel
  cases hrel with
  | some hstage => exact ⟨_, rfl, hstage⟩

theorem Alike.put (h : crew.Alike like text crew') (k permits : Nat)
    {stage stage' : Stage JobOutcome} (hstage : stage.Alike like (JobOutcome.Agree text) stage')
    {world : World σ} {world' : World τ} (hworld : world.Alike like world') :
    { crew.put k stage world with permits }.Alike like text
      { crew'.put k stage' world' with permits } :=
  ⟨forall₂_set h.stages hstage k, hworld, h.joined, h.slots, rfl⟩

theorem allSubmitted_congr (h : crew.Alike like text crew')
    (hsubmitted : Batch.AllSubmitted crew.batch.stages) :
    Batch.AllSubmitted crew'.batch.stages := by
  intro work hmem
  obtain ⟨k, hk⟩ := List.mem_iff_getElem?.1 hmem
  have hrel := rel_getElem? h.stages k
  rw [hk] at hrel
  generalize hfound : crew.batch.stages[k]? = found at hrel
  cases hrel with
  | some hstage =>
    cases hstage with
    | upcoming _ => exact hsubmitted _ (List.mem_of_getElem? hfound)

/-- Work that goes on in one crew goes on alike in the other. -/
theorem Alike.exists_advance (h : crew.Alike like text crew') {work work' : Dialogue JobOutcome}
    (hwork : work.Alike like (JobOutcome.Agree text) work') {world : World σ}
    {progress : Dialogue.Progress JobOutcome}
    (hadvance : work.advance crew.batch.world = (progress, world)) :
    ∃ progress' world', work'.advance crew'.batch.world = (progress', world') ∧
      progress.Alike like (JobOutcome.Agree text) progress' ∧ world.Alike like world' := by
  obtain ⟨hprogress, hafter⟩ := Dialogue.alike_advance hwork h.world
  rw [hadvance] at hprogress hafter
  exact ⟨_, _, rfl, hprogress, hafter⟩

/-- Whatever happens to a crew can happen to one that stands alike. -/
theorem exists_alike_step (h : crew.Alike like text crew') (hstep : Step schedule crew event next) :
    ∃ next', Step schedule crew' event next' ∧ next.Alike like text next' := by
  -- what the one crew needs for an event, a stage, a permit or the time, the other has as well
  cases hstep with
  | passes span => exact ⟨_, .passes span, { h with world := h.world.after span }⟩
  | @submits k work hk hdue =>
    obtain ⟨stage', hk', hstage⟩ := h.exists_stage hk
    cases hstage with
    | upcoming hwork =>
      rw [h.world.clock] at hdue
      exact ⟨_, .submits hk' hdue,
        { h.put k crew.permits (.queued hwork) h.world with permits := h.permits }⟩
  | @starts k n work hk hleft =>
    obtain ⟨stage', hk', hstage⟩ := h.exists_stage hk
    cases hstage with
    | queued hwork =>
      refine ⟨_, .starts hk' (h.permits ▸ hleft), ?_⟩
      rw [← h.world.clock]
      exact h.put k n (.running _ hwork) h.world
  | @resumes k wake wake' work rest world hk hwake hadvance =>
    obtain ⟨stage', hk', hstage⟩ := h.exists_stage hk
    cases hstage with
    | running _ hwork =>
      obtain ⟨_, _, hadvance', hprogress, hafter⟩ := h.exists_advance hwork hadvance
      rw [h.world.clock] at hwake
      cases hprogress with
      | sleeping _ hrest =>
        exact ⟨_, .resumes hk' hwake hadvance',
          { h.put k crew.permits (.running wake' hrest) hafter with permits := h.permits }⟩
  | @ends k wake work result world hk hwake hadvance =>
    obtain ⟨stage', hk', hstage⟩ := h.exists_stage hk
    cases hstage with
    | running _ hwork =>
      obtain ⟨_, _, hadvance', hprogress, hafter⟩ := h.exists_advance hwork hadvance
      rw [h.world.clock] at hwake
      cases hprogress with
      | ended hresult =>
        refine ⟨_, .ends hk' hwake hadvance', ?_⟩
        rw [← h.permits]
        exact h.put k (crew.permits + 1) (.ended hresult) hafter
  | @breaksOff k wake work hk =>
    obtain ⟨stage', hk', hstage⟩ := h.exists_stage hk
    cases hstage with
    | running _ hwork =>
      refine ⟨_, .breaksOff hk', ?_⟩
      rw [← h.permits]
      exact h.put k (crew.permits + 1) (.ended .none) h.world
  | @joins k result hsubmitted hk hnew =>
    obtain ⟨stage', hk', hstage⟩ := h.exists_stage hk
    cases hstage with
    | ended hresult =>
      refine ⟨_, .joins (allSubmitted_congr h hsubmitted) hk' (h.joined ▸ hnew), ?_⟩
      exact { h with joined := congrArg _ h.joined, slots := agree_takeIn h.slots hresult }

/-- The same events can happen in batches of like runners, and lead to crews that stand alike. -/
theorem exists_alike_runs {events : List Event} (h : crew.Alike like text crew')
    (hruns : Runs schedule crew events next) :
    ∃ next', Runs schedule crew' events next' ∧ next.Alike like text next' := by
  induction hruns with
  | nil => exact ⟨crew', .nil, h⟩
  | cons _ hstep ih =>
    obtain ⟨middle, hmiddle, halike⟩ := ih
    obtain ⟨last, hlast, hend⟩ := exists_alike_step halike hstep
    exact ⟨last, .cons hmiddle hlast, hend⟩

end Steps

/-- When a crew is over, so is one that stands alike, and their reports agree. -/
theorem isOver_congr {schedule : Schedule} {crew : Crew σ} {crew' : Crew τ}
    (h : crew.Alike like text crew') {timedOut : Bool}
    (hover : crew.batch.IsOver schedule timedOut) : crew'.batch.IsOver schedule timedOut := by
  have hended := all_hasEnded_congr h.stages
  refine ⟨allSubmitted_congr h hover.submitted, ?_, ?_⟩
  · intro k result hk
    have hrel := rel_getElem? h.stages k
    rw [hk] at hrel
    generalize hfound : crew.batch.stages[k]? = found at hrel
    cases hrel with
    | some hstage =>
      cases hstage with
      | ended _ => exact h.joined ▸ hover.drained k _ hfound
  · have hdecided := hover.decided
    cases timedOut with
    | true =>
      obtain ⟨hcutoff, hopen⟩ := hdecided
      refine ⟨h.world.clock ▸ hcutoff, ?_⟩
      have hall : crew.batch.stages.all hasEnded = false := by
        simpa only [List.all_eq_false, Bool.not_eq_true] using hopen
      rw [hended] at hall
      simpa only [List.all_eq_false, Bool.not_eq_true] using hall
    | false =>
      rw [if_neg Bool.false_ne_true, ← List.all_eq_true, hended] at hdecided
      rw [if_neg Bool.false_ne_true, ← List.all_eq_true]
      exact hdecided

end Crew

end JobRunner

end ControlPlane
