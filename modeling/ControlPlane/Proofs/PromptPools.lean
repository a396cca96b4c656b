import ControlPlane.Proofs.BatchTimes
import ControlPlane.Proofs.Outcomes
import ControlPlane.Proofs.SteadyReplies
import Mathlib.Data.List.Count

/-!
# Pools with a worker for everyone

If there are as many workers as pieces of work and everything is submitted at once, each piece
starts at once and goes on whenever it is due, as if it were alone. So what a dialogue ensures about
its value and the time of it, whichever way requests can end (`Dialogue.Ensures`), holds for each
piece of work in the pool (`Prompt`).

Main statement: a command of a batch with a worker for each ends as it ensures if that is by the
deadline, and is cut off otherwise (`JobRunner.ended_or_late_of_ensures`).
-/

namespace ControlPlane

/-! ## What a dialogue ensures -/

namespace Dialogue

variable {α β σ : Type} {answers : Request → Delivery → Duration → Prop}

/-- A dialogue that starts at an instant ends with a value or breaks off, and what it comes to and
when have a property, whichever way its requests can end. -/
inductive Ensures (answers : Request → Delivery → Duration → Prop)
    (P : Instant → Option α → Prop) : Instant → Dialogue α → Prop
  | done {now : Instant} {a : α} (h : P now (some a)) : Ensures answers P now (.done a)
  | broken {now : Instant} (h : P now none) : Ensures answers P now .broken
  | send {now : Instant} {request : Request} {next : Delivery → Dialogue α}
    (h : ∀ delivery span, answers request delivery span →
      Ensures answers P (now.later span) (next delivery)) :
    Ensures answers P now (.send request next)
  | readClock {now : Instant} {next : Instant → Dialogue α} (h : Ensures answers P now (next now)) :
    Ensures answers P now (.readClock next)
  | wait {now : Instant} {span : Duration} {next : Dialogue α}
    (h : Ensures answers P (now.later span) next) : Ensures answers P now (.wait span next)
  | draw {now : Instant} {next : Fin 62 → Dialogue α}
    (h : ∀ letter, Ensures answers P now (next letter)) : Ensures answers P now (.draw next)

theorem ensures_bind {P : Instant → Option α → Prop} {Q : Instant → Option β → Prop}
    {d : Dialogue α} {f : α → Dialogue β} {now : Instant} (h : d.Ensures answers P now)
    (hf : ∀ t a, P t (some a) → (f a).Ensures answers Q t) (hbroken : ∀ t, P t none → Q t none) :
    (d.bind f).Ensures answers Q now := by
  induction h with
  | done ha => exact hf _ _ ha
  | broken hnone => exact .broken (hbroken _ hnone)
  | send _ ih => exact .send ih
  | readClock _ ih => exact .readClock ih
  | wait _ ih => exact .wait ih
  | draw _ ih => exact .draw ih

theorem ensures_mono {P Q : Instant → Option α → Prop} {d : Dialogue α} {now : Instant}
    (h : d.Ensures answers P now) (hPQ : ∀ t result, P t result → Q t result) :
    d.Ensures answers Q now := by
  induction h with
  | done ha => exact .done (hPQ _ _ ha)
  | broken hnone => exact .broken (hPQ _ _ hnone)
  | send _ ih => exact .send ih
  | readClock _ ih => exact .readClock ih
  | wait _ ih => exact .wait ih
  | draw _ ih => exact .draw ih

/-- If requests can end at all, what a dialogue ensures comes about, and not before its start. -/
theorem exists_of_ensures {P : Instant → Option α → Prop} {d : Dialogue α} {now : Instant}
    (h : d.Ensures answers P now) (hanswers : ∀ request, ∃ delivery span,
      answers request delivery span) : ∃ t result, now ≤ t ∧ P t result := by
  induction h with
  | done ha => exact ⟨_, _, Instant.le_refl _, ha⟩
  | broken hnone => exact ⟨_, _, Instant.le_refl _, hnone⟩
  | @send now request next _ ih =>
    obtain ⟨delivery, span, hanswer⟩ := hanswers request
    obtain ⟨t, result, hle, hresult⟩ := ih delivery span hanswer
    exact ⟨t, result, Instant.le_trans (Instant.le_later _ _) hle, hresult⟩
  | readClock _ ih => exact ih
  | wait _ ih =>
    obtain ⟨t, result, hle, hresult⟩ := ih
    exact ⟨t, result, Instant.le_trans (Instant.le_later _ _) hle, hresult⟩
  | draw _ ih => exact ih 0

/-- What a dialogue ensures comes about when it is run. -/
theorem run_of_ensures {P : Instant → Option α → Prop} {d : Dialogue α} {world : World σ}
    (h : d.Ensures answers P world.clock) (hgives : world.Gives answers) :
    P (d.run world).2.clock (d.run world).1 := by
  generalize hnow : world.clock = now at h
  induction h generalizing world with
  | done ha => exact hnow ▸ ha
  | broken hnone => exact hnow ▸ hnone
  | @send now request next _ ih =>
    refine ih _ _ (hgives.deliver request) ((hgives.after_deliver request).congr rfl rfl) ?_
    exact congrArg (Instant.later · _) ((World.clock_deliver request world).trans hnow)
  | readClock _ ih =>
    subst hnow
    exact ih hgives rfl
  | @wait now span next _ ih =>
    exact @ih (world.after span) (hgives.congr rfl rfl) (congrArg (Instant.later · span) hnow)
  | draw _ ih => exact @ih _ world.drawOne.2 (hgives.congr rfl rfl) hnow

/-- A dialogue that starts at an instant can end at another, with a value or without, its requests
ending in ways in which they can. -/
inductive MayEnd (answers : Request → Delivery → Duration → Prop) :
    Instant → Dialogue α → Instant → Option α → Prop
  | done {now : Instant} {a : α} : MayEnd answers now (.done a) now (some a)
  | broken {now : Instant} : MayEnd answers now .broken now none
  | send {now t : Instant} {result : Option α} {request : Request}
    {next : Delivery → Dialogue α} {delivery : Delivery} {span : Duration}
    (hanswer : answers request delivery span)
    (h : MayEnd answers (now.later span) (next delivery) t result) :
    MayEnd answers now (.send request next) t result
  | readClock {now t : Instant} {result : Option α} {next : Instant → Dialogue α}
    (h : MayEnd answers now (next now) t result) : MayEnd answers now (.readClock next) t result
  | wait {now t : Instant} {result : Option α} {span : Duration} {next : Dialogue α}
    (h : MayEnd answers (now.later span) next t result) :
    MayEnd answers now (.wait span next) t result
  | draw {now t : Instant} {result : Option α} {next : Fin 62 → Dialogue α} (letter : Fin 62)
    (h : MayEnd answers now (next letter) t result) : MayEnd answers now (.draw next) t result

/-- A dialogue that ensures anything ensures that it ends as it can. -/
theorem ensures_mayEnd {P : Instant → Option α → Prop} {d : Dialogue α} {now : Instant}
    (h : d.Ensures answers P now) :
    d.Ensures answers (fun t result => P t result ∧ MayEnd answers now d t result) now := by
  induction h with
  | done ha => exact .done ⟨ha, .done⟩
  | broken hnone => exact .broken ⟨hnone, .broken⟩
  | send _ ih =>
    refine .send fun delivery span hanswer => ?_
    exact ensures_mono (ih delivery span hanswer) fun _ _ ⟨hP, hend⟩ => ⟨hP, .send hanswer hend⟩
  | readClock _ ih => exact .readClock (ensures_mono ih fun _ _ ⟨hP, hend⟩ => ⟨hP, .readClock hend⟩)
  | wait _ ih => exact .wait (ensures_mono ih fun _ _ ⟨hP, hend⟩ => ⟨hP, .wait hend⟩)
  | draw _ ih =>
    refine .draw fun letter => ?_
    exact ensures_mono (ih letter) fun _ _ ⟨hP, hend⟩ => ⟨hP, .draw letter hend⟩

/-- What is ensured of a dialogue that was let go on. -/
def Progress.Ensures (answers : Request → Delivery → Duration → Prop)
    (P : Instant → Option α → Prop) (now : Instant) : Progress α → Prop
  | .ended result => P now result
  | .sleeping wake rest => rest.Ensures answers P wake

theorem ensures_advance {P : Instant → Option α → Prop} {d : Dialogue α} {world : World σ}
    (h : d.Ensures answers P world.clock) (hgives : world.Gives answers) :
    (d.advance world).1.Ensures answers P world.clock := by
  generalize hnow : world.clock = now at h
  induction h generalizing world with
  | done ha => exact ha
  | broken hnone => exact hnone
  | @send now request next h _ =>
    have hnext := h _ _ (hgives.deliver request)
    rw [← hnow, ← World.clock_deliver request world] at hnext
    exact hnext
  | readClock _ ih =>
    subst hnow
    exact ih hgives rfl
  | wait h _ =>
    rw [← hnow] at h
    exact h
  | draw _ ih => exact @ih _ world.drawOne.2 (hgives.congr rfl rfl) hnow

end Dialogue

/-- What is ensured of work at a stage. -/
def Stage.Ensures {α : Type} (answers : Request → Delivery → Duration → Prop)
    (P : Instant → Option α → Prop) (now : Instant) : Stage α → Prop
  | .upcoming work | .queued work => work.Ensures answers P now
  | .running wake work => work.Ensures answers P wake
  | .ended result => ∃ t ≤ now, P t result

/-! ## Pools with a worker for everyone -/

namespace Schedule

variable {α σ : Type} {schedule : Schedule} {answers : Request → Delivery → Duration → Prop}
  {P : Nat → Instant → Option α → Prop} {stages stages' : List (Stage α)}
  {world world' : World σ}

/-- A schedule that lets everything in at once, with a worker for everyone. -/
structure HasRoom (schedule : Schedule) (count : Nat) : Prop where
  interval : schedule.interval = .zero
  workers : count ≤ schedule.workers
  start_le : schedule.start ≤ schedule.deadline
  cutoff : schedule.cutoff = schedule.deadline

theorem HasRoom.submission {count : Nat} (h : schedule.HasRoom count) (k : Nat) :
    schedule.submission k = schedule.start := by
  rw [Schedule.submission, h.interval]
  exact congrArg Instant.mk (by simp [Duration.zero])

theorem HasRoom.isOpen {count : Nat} (h : schedule.HasRoom count) (t : Instant) :
    schedule.isOpen t = true ↔ t ≤ schedule.deadline := by
  have hlt : t < schedule.deadline → t ≤ schedule.deadline := fun hlt => Nat.le_of_lt hlt
  rw [Schedule.isOpen, h.cutoff, Bool.or_eq_true, decide_eq_true_iff, decide_eq_true_iff]
  exact ⟨fun hor => hor.elim id hlt, Or.inl⟩

/-- Each piece of work ensures what it ensured at the start of the pool, and waits no longer. -/
structure Prompt (schedule : Schedule) (answers : Request → Delivery → Duration → Prop)
    (P : Nat → Instant → Option α → Prop) (stages : List (Stage α)) (world : World σ) : Prop where
  gives : world.Gives answers
  ensures : ∀ (k : Nat) stage, stages[k]? = some stage → stage.Ensures answers (P k) world.clock
  waiting : ∀ (k : Nat) stage, stages[k]? = some stage → hasStarted stage = false →
    world.clock = schedule.start

theorem HasRoom.busy_lt (hroom : schedule.HasRoom stages.length) {j : Nat} {waiting : Stage α}
    (hj : stages[j]? = some waiting) (hwaiting : hasStarted waiting = false) :
    busy stages < schedule.workers := by
  refine Nat.lt_of_lt_of_le (List.countP_lt_length_iff.2 ?_) hroom.workers
  refine ⟨waiting, List.mem_of_getElem? hj, ?_⟩
  cases waiting with
  | upcoming work => rfl
  | queued work => rfl
  | running wake work => exact absurd hwaiting (by simp [hasStarted])
  | ended result => rfl

/-- Work that waits at the start of a pool with room for it is due at once. -/
theorem exists_next_of_waiting (hroom : schedule.HasRoom stages.length) {j : Nat}
    {waiting : Stage α} (hj : stages[j]? = some waiting) (hwaiting : hasStarted waiting = false) :
    ∃ t k, schedule.next? stages schedule.start = some (t, k) ∧ t ≤ schedule.start := by
  have hopen := (hroom.isOpen schedule.start).2 hroom.start_le
  rw [next?]
  cases hstartable : schedule.startable? stages schedule.start with
  | some k => exact ⟨schedule.start, k, rfl, Instant.le_refl _⟩
  | none =>
    rw [startable?, if_pos ⟨hopen, hroom.busy_lt hj hwaiting⟩, List.findIdx?_eq_none_iff]
      at hstartable
    have hqueued := hstartable waiting (List.mem_of_getElem? hj)
    have hdue : schedule.due? (0 + j) waiting = some schedule.start := by
      cases waiting with
      | upcoming work => rw [due?, hroom.submission]
      | queued work => exact absurd hqueued (by simp [isQueued])
      | running wake work => exact absurd hwaiting (by simp [hasStarted])
      | ended result => exact absurd hwaiting (by simp [hasStarted])
    obtain ⟨t, k, hearliest, hle⟩ := exists_earliest schedule 0 hj hdue
    have hcutoff : t ≤ schedule.cutoff :=
      Instant.le_trans hle (hroom.cutoff ▸ hroom.start_le)
    exact ⟨t, k, by simp only [hearliest, if_pos hcutoff], hle⟩

/-- What is ensured of a piece of work is ensured when it has gone on, at its time. -/
theorem ensures_perform {Q : Instant → Option α → Prop} {stage : Stage α}
    (h : stage.Ensures answers Q world.clock) (hgives : world.Gives answers)
    (hwake : ∀ wake work, stage = .running wake work → wake = world.clock) :
    (perform stage world).1.Ensures answers Q world.clock ∧
      (perform stage world).2.Gives answers := by
  cases stage with
  | upcoming work => exact ⟨h, hgives⟩
  | queued work => exact ⟨h, hgives⟩
  | running wake work =>
    obtain rfl := hwake wake work rfl
    have hensures := Dialogue.ensures_advance h hgives
    have hgives' := Dialogue.gives_advance work hgives
    rw [perform]
    rcases hadvance : work.advance world with ⟨result | ⟨wake', rest⟩, world'⟩
    · rw [hadvance] at hensures hgives'
      exact ⟨⟨_, Instant.le_refl _, hensures⟩, hgives'⟩
    · rw [hadvance] at hensures hgives'
      exact ⟨hensures, hgives'⟩
  | ended result => exact ⟨h, hgives⟩

theorem hasStarted_perform {stage : Stage α} (h : hasStarted (perform stage world).1 = false) :
    hasStarted stage = false := by
  cases stage with
  | upcoming work => rfl
  | queued work => rfl
  | running wake work =>
    unfold perform at h
    simp only at h
    split at h
    · exact absurd h (by simp [hasStarted])
    · exact absurd h (by simp [hasStarted])
  | ended result => exact absurd h (by simp [perform, hasStarted])

theorem prompt_of_step (hroom : schedule.HasRoom stages.length)
    (h : schedule.step stages world = some (stages', world'))
    (htimely : schedule.Timely stages world.clock) (hnow : world.clock ≤ schedule.cutoff)
    (hprompt : schedule.Prompt answers P stages world) :
    schedule.Prompt answers P stages' world' := by
  obtain ⟨t, k, stage, hnext, hk, -, rfl, rfl⟩ := step_eq_some h
  obtain ⟨hlater, -, -, -⟩ := ready_of_next hnext hk htimely hnow
  obtain ⟨hlt, -⟩ := List.getElem?_eq_some_iff.1 hk
  -- while work waits, no time passes
  have hstill : ∀ (j : Nat) waiting, stages[j]? = some waiting → hasStarted waiting = false →
      t = world.clock ∧ t = schedule.start := by
    intro j waiting hj hwaiting
    have hstart := hprompt.waiting j waiting hj hwaiting
    obtain ⟨t', k', hnext', hle⟩ := exists_next_of_waiting hroom hj hwaiting
    rw [← hstart, hnext, Option.some.injEq, Prod.mk.injEq] at hnext'
    obtain ⟨rfl, -⟩ := hnext'
    rw [← hstart] at hle
    have heq : t = world.clock := congrArg Instant.mk (Nat.le_antisymm hle hlater)
    exact ⟨heq, heq.trans hstart⟩
  have hensures : ∀ (j : Nat) (other : Stage α), stages[j]? = some other →
      other.Ensures answers (P j) t := by
    intro j other hj
    have hbefore := hprompt.ensures j other hj
    cases other with
    | upcoming work => exact (hstill j _ hj rfl).1 ▸ hbefore
    | queued work => exact (hstill j _ hj rfl).1 ▸ hbefore
    | running wake work => exact hbefore
    | ended result =>
      obtain ⟨t', hle, hresult⟩ := hbefore
      exact ⟨t', Instant.le_trans hle hlater, hresult⟩
  have hwake : ∀ wake work, stage = .running wake work → wake = t := by
    rintro wake work rfl
    exact wake_of_next hnext hk
  obtain ⟨hperformed, hgives⟩ := @ensures_perform _ _ _ { world with clock := t } _ _
    (hensures k stage hk) (hprompt.gives.congr rfl rfl) hwake
  refine ⟨hgives, ?_, ?_⟩
  · intro j other hj
    rw [clock_perform]
    by_cases hkj : k = j
    · subst hkj
      rw [List.getElem?_set_self hlt, Option.some.injEq] at hj
      exact hj ▸ hperformed
    · rw [List.getElem?_set_ne hkj] at hj
      exact hensures j other hj
  · intro j other hj hwaiting
    rw [clock_perform]
    by_cases hkj : k = j
    · subst hkj
      rw [List.getElem?_set_self hlt, Option.some.injEq] at hj
      exact (hstill k stage hk (hasStarted_perform (hj ▸ hwaiting))).2
    · rw [List.getElem?_set_ne hkj] at hj
      exact (hstill j other hj hwaiting).2

theorem prompt_drive (hroom : schedule.HasRoom stages.length)
    (htimely : schedule.Timely stages world.clock) (hnow : world.clock ≤ schedule.cutoff)
    (hprompt : schedule.Prompt answers P stages world) :
    schedule.Prompt answers P (schedule.drive stages world).1 (schedule.drive stages world).2 := by
  fun_induction drive schedule stages world with
  | case1 => exact hprompt
  | case2 stages world stages' world' hstep ih =>
    obtain ⟨-, htimely', hnow'⟩ := history_of_step hstep htimely hnow
    have hlength : stages'.length = stages.length := by
      obtain ⟨_, k, _, -, -, -, rfl, -⟩ := step_eq_some hstep
      exact List.length_set
    exact ih (hlength ▸ hroom) htimely' hnow' (prompt_of_step hroom hstep htimely hnow hprompt)

/-- When the pool has no more steps, each piece of work has ended as it ensured, in time, or what it
ensures comes about after the deadline. -/
theorem ended_or_late_of_prompt (hroom : schedule.HasRoom stages.length)
    (hnone : schedule.step stages world = none) (hnow : world.clock ≤ schedule.cutoff)
    (hprompt : schedule.Prompt answers P stages world) {k : Nat} {stage : Stage α}
    (hk : stages[k]? = some stage) :
    (∃ result t, stage = .ended result ∧ t ≤ schedule.deadline ∧ P k t result) ∨
      (∀ result, stage ≠ .ended result) ∧ ∃ result t, schedule.deadline < t ∧ P k t result := by
  have hensures := hprompt.ensures k stage hk
  have hnext := next?_eq_none_of_step hnone
  have hstarted : hasStarted stage = true := by
    refine Bool.of_not_eq_false ?_
    intro hwaiting
    obtain ⟨t, j, hsome, -⟩ := exists_next_of_waiting hroom hk hwaiting
    rw [← hprompt.waiting k stage hk hwaiting, hnext] at hsome
    exact absurd hsome (by simp)
  cases stage with
  | upcoming work => exact absurd hstarted (by simp [hasStarted])
  | queued work => exact absurd hstarted (by simp [hasStarted])
  | running wake work =>
    have hlate : schedule.deadline < wake := by
      refine Nat.lt_of_not_le ?_
      intro hwake
      have hcutoff := cutoff_lt_of_step_eq_none hnone hk
        (due?_running.2 ⟨rfl, (hroom.isOpen wake).2 hwake⟩)
      rw [hroom.cutoff] at hcutoff
      exact absurd hwake (Nat.not_le_of_lt hcutoff)
    obtain ⟨t, result, hle, hresult⟩ := Dialogue.exists_of_ensures hensures
      fun request => ⟨_, _, hprompt.gives.deliver request⟩
    exact .inr ⟨by simp, result, t, Nat.lt_of_lt_of_le hlate hle, hresult⟩
  | ended result =>
    obtain ⟨t, hle, hresult⟩ := hensures
    rw [hroom.cutoff] at hnow
    exact .inl ⟨result, t, rfl, Instant.le_trans hle hnow, hresult⟩

end Schedule

/-! ## Batches with a worker for every command -/

namespace JobRunner

variable {σ : Type} {runner : JobRunner} {commands : List Command} {workers : Nat}
  {world : World σ} {schedule : Schedule} {answers : Request → Delivery → Duration → Prop}
  {P : Nat → Instant → Option (Except ClientError CommandOutput) → Prop}

/-- A command of a batch has an outcome that is made of what the command came to, or breaks off with
it. -/
def MakesOutcome (table : Option JobTable)
    (Q : Instant → Option (Except ClientError CommandOutput) → Prop) (t : Instant)
    (outcome? : Option JobOutcome) : Prop :=
  ∃ output?, Q t output? ∧ Option.Rel (IsMadeOf table) output? outcome?

/-- What a command of a batch ensures about its outcome, from what the command ensures. -/
theorem ensures_runOne {Q : Instant → Option (Except ClientError CommandOutput) → Prop}
    {command : Command} {now : Instant}
    (h : (ExceptT.run (runner.client.executeRaw command)).Ensures answers Q now) (index : Nat) :
    (runner.runOne index command).Ensures answers (MakesOutcome runner.table Q) now := by
  refine .readClock (Dialogue.ensures_bind h ?_ ?_)
  · intro t output houtput
    exact .readClock (.done ⟨some output, houtput, .some ⟨rfl, rfl, rfl⟩⟩)
  · intro t hnone
    exact ⟨none, hnone, .none⟩

/-- A batch that is submitted all at once, with a worker for every command. -/
theorem hasRoom_of_schedule?
    (h : runner.schedule? commands.length workers .zero world.clock = some schedule)
    (hworkers : commands.length ≤ workers) :
    schedule.HasRoom (runner.stagesFrom 0 commands).length := by
  obtain ⟨deadline, hdeadline, -, rfl⟩ := schedule?_eq_some_iff.1 h
  have hle : world.clock ≤ deadline :=
    Instant.later_of_later? hdeadline ▸ Instant.le_later _ _
  refine ⟨rfl, ?_, hle, ?_⟩
  · rw [length_stagesFrom]
    exact Nat.le_trans hworkers (Nat.le_max_left _ _)
  · have hnow : world.clock.later ⟨(commands.length - 1) * Duration.zero.nanoseconds⟩ =
        world.clock := congrArg Instant.mk (by simp [Duration.zero])
    rw [hnow]
    exact laterOf_of_le hle

theorem prompt_stagesFrom
    (hstart : schedule.start = world.clock) (hgives : world.Gives answers)
    (hensures : ∀ (k : Nat) command, commands[k]? = some command →
      (ExceptT.run (runner.client.executeRaw command)).Ensures answers (P k) world.clock) :
    schedule.Prompt answers (fun k => MakesOutcome runner.table (P k))
      (runner.stagesFrom 0 commands) world := by
  refine ⟨hgives, ?_, fun _ _ _ _ => hstart.symm⟩
  intro k stage hk
  rw [getElem?_stagesFrom, Option.map_eq_some_iff] at hk
  obtain ⟨command, hcommand, rfl⟩ := hk
  exact ensures_runOne (hensures k command hcommand) _

theorem isCutShort_of_ended {stages : List (Stage JobOutcome)}
    (h : ∀ stage ∈ stages, ∃ result, stage = .ended result) : isCutShort stages = false := by
  rw [isCutShort, Bool.not_eq_false', List.all_eq_true]
  intro stage hstage
  obtain ⟨result, rfl⟩ := h stage hstage
  rfl

section Drive

variable (hschedule : runner.schedule? commands.length workers .zero world.clock = some schedule)
  (hworkers : commands.length ≤ workers) (hgives : world.Gives answers)
  (hensures : ∀ (k : Nat) command, commands[k]? = some command →
    (ExceptT.run (runner.client.executeRaw command)).Ensures answers (P k) world.clock)

include hschedule hworkers hgives hensures

/-- What commands ensure is ensured of a batch with a worker for each of them, when it has come to
its end. -/
theorem prompt_drive_of_ensures :
    schedule.Prompt answers (fun k => MakesOutcome runner.table (P k))
      (schedule.drive (runner.stagesFrom 0 commands) world).1
      (schedule.drive (runner.stagesFrom 0 commands) world).2 := by
  obtain ⟨htimely, hcutoff⟩ := timely_start hschedule
  exact Schedule.prompt_drive (hasRoom_of_schedule? hschedule hworkers) htimely hcutoff
    (prompt_stagesFrom (times_of_schedule? hschedule).1 hgives hensures)

/-- A command of such a batch has ended in time, with an outcome that is made of what it ensured or
by breaking off, or is not done and would be later. -/
theorem ended_or_late_of_ensures {k : Nat} (hk : k < commands.length) :
    (∃ outcome? t output?, (schedule.drive (runner.stagesFrom 0 commands) world).1[k]? =
        some (.ended outcome?) ∧ t ≤ schedule.deadline ∧ P k t output? ∧
        Option.Rel (IsMadeOf runner.table) output? outcome?) ∨
    (∀ result, (schedule.drive (runner.stagesFrom 0 commands) world).1[k]? ≠
      some (Stage.ended result)) ∧ ∃ t output?, schedule.deadline < t ∧ P k t output? := by
  have hprompt := prompt_drive_of_ensures hschedule hworkers hgives hensures
  have hroom := hasRoom_of_schedule? hschedule hworkers
  have hlength := Schedule.length_drive schedule (runner.stagesFrom 0 commands) world
  rw [← hlength] at hroom
  rw [length_stagesFrom] at hlength
  obtain ⟨htimely, hcutoff⟩ := timely_start hschedule
  obtain ⟨-, hnow, hnone⟩ := Schedule.history_drive htimely hcutoff
  generalize schedule.drive (runner.stagesFrom 0 commands) world = pool at *
  have hstage := List.getElem?_eq_getElem (hlength.symm ▸ hk)
  rcases Schedule.ended_or_late_of_prompt hroom hnone hnow hprompt hstage with
    ⟨outcome?, t, hended, ht, output?, houtput, hmade⟩ | ⟨hnot, _, t, ht, output?, houtput, -⟩
  · exact .inl ⟨outcome?, t, output?, hstage.trans (congrArg some hended), ht, houtput, hmade⟩
  · refine .inr ⟨?_, t, output?, ht, houtput⟩
    intro result hresult
    rw [hstage, Option.some.injEq] at hresult
    exact hnot result hresult

/-- If all commands ensure to be done by the deadline, each of them has ended as it ensured. -/
theorem ended_drive_of_ensures
    (hdone : ∀ k t output?, P k t output? → t ≤ schedule.deadline) :
    ∀ stage ∈ (schedule.drive (runner.stagesFrom 0 commands) world).1,
      ∃ outcome? k t output?, stage = .ended outcome? ∧ P k t output? ∧
        Option.Rel (IsMadeOf runner.table) output? outcome? := by
  intro stage hstage
  obtain ⟨k, hlt, rfl⟩ := List.getElem_of_mem hstage
  have hk := hlt
  rw [Schedule.length_drive, length_stagesFrom] at hk
  rcases ended_or_late_of_ensures hschedule hworkers hgives hensures hk with
    ⟨outcome?, t, output?, hended, -, houtput, hmade⟩ | ⟨-, t, output?, hlate, houtput⟩
  · rw [List.getElem?_eq_getElem hlt, Option.some.injEq] at hended
    exact ⟨outcome?, k, t, output?, hended, houtput, hmade⟩
  · exact absurd (hdone k t output? houtput) (Nat.not_le_of_lt hlate)

/-- If all commands ensure to be done by the deadline, nothing of their batch is cut off. -/
theorem isCutShort_drive_of_ensures
    (hdone : ∀ k t output?, P k t output? → t ≤ schedule.deadline) :
    isCutShort (schedule.drive (runner.stagesFrom 0 commands) world).1 = false := by
  refine isCutShort_of_ended fun stage hstage => ?_
  obtain ⟨outcome?, -, -, -, hended, -⟩ :=
    ended_drive_of_ensures hschedule hworkers hgives hensures hdone stage hstage
  exact ⟨outcome?, hended⟩

end Drive

end JobRunner

end ControlPlane
