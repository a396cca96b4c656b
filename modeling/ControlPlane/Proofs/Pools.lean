import ControlPlane.Batch.Schedule
import Mathlib.Logic.Relation

/-!
# What can happen in a pool

A schedule says what a pool does if everything happens when it is due. In general work goes on some
time after it could, workers take up what waits in any order, and a worker may break off at any
moment. `Schedule.Happens` has all of this; what the schedule itself does is one case
(`history_drive`).

Whatever happens, work that has ended stays as it ended (`ended_of_history`), and it ends with a
value that it could end with from the start (`yields_of_history`).
-/

namespace ControlPlane

/-! ## What a dialogue can end with -/

namespace Dialogue

variable {α β σ : Type}

/-- Every value that a dialogue can end with has a property. -/
inductive Yields (P : α → Prop) : Dialogue α → Prop
  | done {a : α} (h : P a) : Yields P (.done a)
  | broken : Yields P .broken
  | send {request : Request} {next : Delivery → Dialogue α}
    (h : ∀ delivery, Yields P (next delivery)) : Yields P (.send request next)
  | readClock {next : Instant → Dialogue α} (h : ∀ now, Yields P (next now)) :
    Yields P (.readClock next)
  | wait {span : Duration} {next : Dialogue α} (h : Yields P next) : Yields P (.wait span next)
  | draw {next : Fin 62 → Dialogue α} (h : ∀ letter, Yields P (next letter)) :
    Yields P (.draw next)

theorem yields_bind {P : β → Prop} (d : Dialogue α) {f : α → Dialogue β}
    (h : ∀ a, (f a).Yields P) : (d.bind f).Yields P := by
  induction d with
  | done a => exact h a
  | broken => exact .broken
  | send request next ih => exact .send ih
  | readClock next ih => exact .readClock ih
  | wait span next ih => exact .wait ih
  | draw next ih => exact .draw ih

/-- Where a dialogue stands that goes on has the property that the dialogue had. -/
def Progress.Yields (P : α → Prop) : Progress α → Prop
  | .ended result => ∀ a, result = some a → P a
  | .sleeping _ rest => rest.Yields P

theorem yields_advance {P : α → Prop} {d : Dialogue α} (h : d.Yields P) (world : World σ) :
    (d.advance world).1.Yields P := by
  induction h generalizing world with
  | done ha =>
    intro b hb
    rw [Option.some.injEq] at hb
    exact hb ▸ ha
  | broken => exact fun _ hb => absurd hb (by simp)
  | send h _ => exact h _
  | readClock _ ih => exact ih _ world
  | wait h _ => exact h
  | draw _ ih => exact ih _ _

/-- Going on takes no time by itself. -/
theorem clock_advance (d : Dialogue α) (world : World σ) :
    (d.advance world).2.clock = world.clock := by
  induction d generalizing world with
  | done a => rfl
  | broken => rfl
  | send request next ih => exact World.clock_deliver request world
  | readClock next ih => exact ih _ world
  | wait span next ih => rfl
  | draw next ih => exact ih _ world.drawOne.2

theorem clock_le_wake {d rest : Dialogue α} {world world' : World σ} {wake : Instant}
    (h : d.advance world = (.sleeping wake rest, world')) : world.clock ≤ wake := by
  induction d generalizing world with
  | done a => exact absurd h (by simp [advance])
  | broken => exact absurd h (by simp [advance])
  | send request next ih =>
    simp only [advance, Prod.mk.injEq, Progress.sleeping.injEq] at h
    rw [← h.1.1, ← World.clock_deliver request world]
    exact Instant.le_later _ _
  | readClock next ih => exact ih _ h
  | wait span next ih =>
    simp only [advance, Prod.mk.injEq, Progress.sleeping.injEq] at h
    rw [← h.1.1]
    exact Instant.le_later _ _
  | draw next ih => exact @ih _ world.drawOne.2 h

end Dialogue

namespace Stage

variable {α : Type}

/-- Whether every value that work can end with has a property. -/
def Yields (P : α → Prop) : Stage α → Prop
  | .upcoming work | .queued work | .running _ work => work.Yields P
  | .ended result => ∀ a, result = some a → P a

end Stage

namespace Schedule

variable {α σ : Type}

theorem yields_perform {P : α → Prop} {stage : Stage α} (h : stage.Yields P) (world : World σ) :
    (perform stage world).1.Yields P := by
  cases stage with
  | upcoming work => exact h
  | queued work => exact h
  | running wake work =>
    have hadvance := Dialogue.yields_advance h world
    unfold perform
    simp only
    split
    · rename_i heq
      rw [heq] at hadvance
      exact hadvance
    · rename_i heq
      rw [heq] at hadvance
      exact hadvance
  | ended result => exact h

theorem clock_perform (stage : Stage α) (world : World σ) :
    (perform stage world).2.clock = world.clock := by
  cases stage with
  | running wake work =>
    have hclock := Dialogue.clock_advance work world
    unfold perform
    simp only
    split
    · rename_i heq
      rw [heq] at hclock
      exact hclock
    · rename_i heq
      rw [heq] at hclock
      exact hclock
  | upcoming work => rfl
  | queued work => rfl
  | ended result => rfl

/-! ## Histories of a pool -/

/-- Whether the work at an index can go on. -/
def Ready (schedule : Schedule) (stages : List (Stage α)) (now : Instant) (k : Nat) :
    Stage α → Prop
  | .upcoming _ => schedule.submission k ≤ now
  | .queued _ => busy stages < schedule.workers
  | .running wake _ => wake ≤ now
  | .ended _ => False

/-- One thing that can happen in a pool. -/
inductive Happens (schedule : Schedule) :
    List (Stage α) × World σ → List (Stage α) × World σ → Prop
  /-- Time passes. -/
  | passes (stages : List (Stage α)) (world : World σ) (span : Duration) :
    Happens schedule (stages, world) (stages, world.after span)
  /-- Work goes on that can. -/
  | goesOn {stages : List (Stage α)} {world : World σ} {k : Nat} {stage : Stage α}
    (hk : stages[k]? = some stage) (hready : schedule.Ready stages world.clock k stage) :
    Happens schedule (stages, world)
      (stages.set k (perform stage world).1, (perform stage world).2)
  /-- A worker breaks off. -/
  | breaksOff {stages : List (Stage α)} {world : World σ} {k : Nat} {wake : Instant}
    {work : Dialogue α} (hk : stages[k]? = some (.running wake work)) :
    Happens schedule (stages, world) (stages.set k (.ended none), world)

/-- What can happen in the course of time. -/
abbrev History (schedule : Schedule) :
    List (Stage α) × World σ → List (Stage α) × World σ → Prop :=
  Relation.ReflTransGen schedule.Happens

variable {schedule : Schedule} {pool pool' : List (Stage α) × World σ}

/-- Only one stage changes, and not one that has ended. -/
theorem exists_of_happens (h : schedule.Happens pool pool') :
    pool'.1 = pool.1 ∨ ∃ k stage stage', pool.1[k]? = some stage ∧
      (∀ result, stage ≠ .ended result) ∧ pool'.1 = pool.1.set k stage' ∧
      ∀ P : α → Prop, stage.Yields P → stage'.Yields P := by
  cases h with
  | passes stages world span => exact Or.inl rfl
  | goesOn hk hready =>
    refine Or.inr ⟨_, _, _, hk, ?_, rfl, fun P hP => yields_perform hP _⟩
    rintro result rfl
    exact hready
  | breaksOff hk =>
    exact Or.inr ⟨_, _, _, hk, by simp, rfl, fun P _ => by simp [Stage.Yields]⟩

theorem length_of_happens (h : schedule.Happens pool pool') :
    pool'.1.length = pool.1.length := by
  rcases exists_of_happens h with heq | ⟨k, stage, stage', -, -, heq, -⟩
  · rw [heq]
  · rw [heq, List.length_set]

theorem ended_of_happens (h : schedule.Happens pool pool') {k : Nat} {result : Option α}
    (hk : pool.1[k]? = some (.ended result)) : pool'.1[k]? = some (.ended result) := by
  rcases exists_of_happens h with heq | ⟨j, stage, stage', hj, hended, heq, -⟩
  · rwa [heq]
  · have hne : j ≠ k := by
      rintro rfl
      rw [hk, Option.some.injEq] at hj
      exact hended result hj.symm
    rw [heq, List.getElem?_set_ne hne]
    exact hk

theorem yields_of_happens (h : schedule.Happens pool pool') {P : Nat → α → Prop}
    (hall : ∀ k (stage : Stage α), pool.1[k]? = some stage → stage.Yields (P k)) :
    ∀ k (stage : Stage α), pool'.1[k]? = some stage → stage.Yields (P k) := by
  intro k stage hk
  rcases exists_of_happens h with heq | ⟨j, before, after, hj, -, heq, hyields⟩
  · rw [heq] at hk
    exact hall k stage hk
  · rw [heq] at hk
    by_cases hjk : j = k
    · subst hjk
      obtain ⟨hlt, -⟩ := List.getElem?_eq_some_iff.1 hj
      rw [List.getElem?_set_self hlt, Option.some.injEq] at hk
      exact hk ▸ hyields _ (hall j before hj)
    · rw [List.getElem?_set_ne hjk] at hk
      exact hall k stage hk

/-- Everything that has ended has ended for good. -/
theorem ended_of_history (h : schedule.History pool pool') {k : Nat} {result : Option α}
    (hk : pool.1[k]? = some (.ended result)) : pool'.1[k]? = some (.ended result) := by
  induction h with
  | refl => exact hk
  | tail _ hlast ih => exact ended_of_happens hlast ih

/-- Work ends with what it could end with from the start. -/
theorem yields_of_history (h : schedule.History pool pool') {P : Nat → α → Prop}
    (hall : ∀ k (stage : Stage α), pool.1[k]? = some stage → stage.Yields (P k)) :
    ∀ k (stage : Stage α), pool'.1[k]? = some stage → stage.Yields (P k) := by
  induction h with
  | refl => exact hall
  | tail _ hlast ih => exact yields_of_happens hlast ih

/-! ## The schedule itself -/

/-- Nothing in a pool is due before an instant. -/
def Timely (schedule : Schedule) (stages : List (Stage α)) (now : Instant) : Prop :=
  ∀ k stage t, stages[k]? = some stage → schedule.due? k stage = some t → now ≤ t

theorem exists_earliest (schedule : Schedule) (index : Nat) {stages : List (Stage α)} {j : Nat}
    {stage : Stage α} {t : Instant} (hj : stages[j]? = some stage)
    (hdue : schedule.due? (index + j) stage = some t) :
    ∃ t' k, schedule.earliest index stages = some (t', k) ∧ t' ≤ t := by
  induction stages generalizing index j with
  | nil => exact absurd hj (by simp)
  | cons first rest ih =>
    cases j with
    | zero =>
      rw [List.getElem?_cons_zero, Option.some.injEq] at hj
      subst hj
      rw [Nat.add_zero] at hdue
      cases hrest : schedule.earliest (index + 1) rest with
      | none => exact ⟨t, index, by simp [earliest, hdue, hrest], Instant.le_refl t⟩
      | some later =>
        obtain ⟨t', k⟩ := later
        by_cases hlt : t' < t
        · exact ⟨t', k, by simp [earliest, hdue, hrest, hlt], Nat.le_of_lt hlt⟩
        · exact ⟨t, index, by simp [earliest, hdue, hrest, hlt], Instant.le_refl t⟩
    | succ j =>
      rw [List.getElem?_cons_succ] at hj
      rw [Nat.add_comm j 1, ← Nat.add_assoc] at hdue
      obtain ⟨t', k, hrest, hle⟩ := ih (index + 1) hj hdue
      cases hfirst : schedule.due? index first with
      | none => exact ⟨t', k, by simp [earliest, hfirst, hrest], hle⟩
      | some t'' =>
        by_cases hlt : t' < t''
        · exact ⟨t', k, by simp [earliest, hfirst, hrest, hlt], hle⟩
        · exact ⟨t'', index, by simp [earliest, hfirst, hrest, hlt],
            Instant.le_trans (Nat.le_of_not_lt hlt) hle⟩

/-- What happens next can happen then, and nothing is due before. -/
theorem ready_of_next {stages : List (Stage α)} {now t : Instant} {k : Nat} {stage : Stage α}
    (h : schedule.next? stages now = some (t, k)) (hk : stages[k]? = some stage)
    (htimely : schedule.Timely stages now) (hnow : now ≤ schedule.cutoff) :
    now ≤ t ∧ t ≤ schedule.cutoff ∧ schedule.Ready stages t k stage ∧ schedule.Timely stages t := by
  obtain ⟨stage', hk', hcases⟩ := next?_eq_some h
  rw [hk, Option.some.injEq] at hk'
  subst hk'
  rcases hcases with ⟨rfl, hqueued, hfree⟩ | ⟨hearliest, hdue, hcutoff⟩
  · refine ⟨Instant.le_refl _, hnow, ?_, htimely⟩
    cases stage with
    | queued work => exact hfree.2
    | upcoming work => exact absurd hqueued (by simp [isQueued])
    | running wake work => exact absurd hqueued (by simp [isQueued])
    | ended result => exact absurd hqueued (by simp [isQueued])
  · refine ⟨htimely _ _ _ hk hdue, hcutoff, ?_, ?_⟩
    · cases stage with
      | upcoming work =>
        rw [due?, Option.some.injEq] at hdue
        exact hdue ▸ Instant.le_refl _
      | running wake work => exact (due?_running.1 hdue).1 ▸ Instant.le_refl _
      | queued work => exact absurd hdue (by simp [due?])
      | ended result => exact absurd hdue (by simp [due?])
    · intro j other t' hj hother
      obtain ⟨first, i, hfirst, hle⟩ :=
        exists_earliest schedule 0 hj (by rw [Nat.zero_add]; exact hother)
      rw [hearliest, Option.some.injEq, Prod.mk.injEq] at hfirst
      exact hfirst.1 ▸ hle

/-- Work that goes on next does so when it is due. -/
theorem wake_of_next {stages : List (Stage α)} {now t wake : Instant} {k : Nat}
    {work : Dialogue α} (h : schedule.next? stages now = some (t, k))
    (hk : stages[k]? = some (.running wake work)) : wake = t := by
  obtain ⟨stage, hstage, ⟨-, hqueued, -⟩ | ⟨-, hdue, -⟩⟩ := next?_eq_some h
  · rw [hk, Option.some.injEq] at hstage
    exact absurd hqueued (by simp [← hstage, isQueued])
  · rw [hk, Option.some.injEq] at hstage
    rw [← hstage] at hdue
    exact (due?_running.1 hdue).1

theorem clock_le_of_due_perform {stage : Stage α} {world : World σ} {k : Nat} {t : Instant}
    (h : schedule.due? k (perform stage world).1 = some t) : world.clock ≤ t := by
  cases stage with
  | upcoming work => exact absurd h (by simp [perform, due?])
  | queued work => exact (due?_running.1 h).1 ▸ Instant.le_refl _
  | running wake work =>
    unfold perform at h
    simp only at h
    split at h
    · exact absurd h (by simp [due?])
    · rename_i hadvance
      exact (due?_running.1 h).1 ▸ Dialogue.clock_le_wake hadvance
  | ended result => exact absurd h (by simp [perform, due?])

theorem after_since {world : World σ} {t : Instant} (h : world.clock ≤ t) :
    world.after (t.since world.clock) = { world with clock := t } := by
  rw [World.after, Instant.later_since h]

/-- A step of the schedule is something that can happen, at its time. -/
theorem history_of_step {stages stages' : List (Stage α)} {world world' : World σ}
    (h : schedule.step stages world = some (stages', world'))
    (htimely : schedule.Timely stages world.clock) (hnow : world.clock ≤ schedule.cutoff) :
    schedule.History (stages, world) (stages', world') ∧ schedule.Timely stages' world'.clock ∧
      world'.clock ≤ schedule.cutoff := by
  obtain ⟨t, k, stage, hnext, hk, -, rfl, rfl⟩ := step_eq_some h
  obtain ⟨hlater, hcutoff, hready, htimely'⟩ := ready_of_next hnext hk htimely hnow
  rw [clock_perform]
  refine ⟨?_, ?_, hcutoff⟩
  · have hpasses : schedule.Happens (stages, world) (stages, { world with clock := t }) :=
      after_since hlater ▸ .passes stages world (t.since world.clock)
    exact (Relation.ReflTransGen.single hpasses).tail (.goesOn hk hready)
  · intro j other t' hj hdue
    by_cases hkj : k = j
    · subst hkj
      obtain ⟨hlt, -⟩ := List.getElem?_eq_some_iff.1 hk
      rw [List.getElem?_set_self hlt, Option.some.injEq] at hj
      rw [← hj] at hdue
      exact clock_le_of_due_perform hdue
    · rw [List.getElem?_set_ne hkj] at hj
      exact htimely' j other t' hj hdue

/-- Running a schedule is one of the histories of its pool, and ends when it has no more steps. -/
theorem history_drive {stages : List (Stage α)} {world : World σ}
    (htimely : schedule.Timely stages world.clock) (hnow : world.clock ≤ schedule.cutoff) :
    schedule.History (stages, world) (schedule.drive stages world) ∧
      (schedule.drive stages world).2.clock ≤ schedule.cutoff ∧
      schedule.step (schedule.drive stages world).1 (schedule.drive stages world).2 = none := by
  fun_induction drive schedule stages world with
  | case1 stages world hnone => exact ⟨.refl, hnow, hnone⟩
  | case2 stages world stages' world' hstep ih =>
    obtain ⟨hhistory, htimely', hnow'⟩ := history_of_step hstep htimely hnow
    obtain ⟨hrest, hclock, hnone⟩ := ih htimely' hnow'
    exact ⟨hhistory.trans hrest, hclock, hnone⟩

/-- A schedule has no more steps only when nothing happens next. -/
theorem next?_eq_none_of_step {stages : List (Stage α)} {world : World σ}
    (h : schedule.step stages world = none) : schedule.next? stages world.clock = none := by
  cases hnext : schedule.next? stages world.clock with
  | none => rfl
  | some next =>
    obtain ⟨t, k⟩ := next
    obtain ⟨stage, hk, hcases⟩ := next?_eq_some hnext
    cases stage with
    | ended result =>
      rcases hcases with ⟨-, hqueued, -⟩ | ⟨-, hdue, -⟩
      · exact absurd hqueued (by simp [isQueued])
      · exact absurd hdue (by simp [due?])
    | upcoming work => exact absurd h (by simp [step, hnext, hk])
    | queued work => exact absurd h (by simp [step, hnext, hk])
    | running wake work => exact absurd h (by simp [step, hnext, hk])

/-- When a schedule has no more steps, nothing is due before the cut-off. -/
theorem cutoff_lt_of_step_eq_none {stages : List (Stage α)} {world : World σ}
    (h : schedule.step stages world = none) {k : Nat} {stage : Stage α} {t : Instant}
    (hk : stages[k]? = some stage) (hdue : schedule.due? k stage = some t) :
    schedule.cutoff < t := by
  have hnext := next?_eq_none_of_step h
  obtain ⟨t', k', hearliest, hle⟩ :=
    exists_earliest schedule 0 hk (by rw [Nat.zero_add]; exact hdue)
  rw [next?, hearliest] at hnext
  by_cases hcutoff : t' ≤ schedule.cutoff
  · split at hnext
    · exact absurd hnext (by simp)
    · simp only [if_pos hcutoff] at hnext
      exact absurd hnext (by simp)
  · exact Nat.lt_of_lt_of_le (Nat.lt_of_not_le hcutoff) hle

end Schedule

end ControlPlane
