import ControlPlane.Batch.Stage

/-!
# Schedules

A pool takes work in at set times and has it done by a bounded number of workers. Work that has
been submitted starts as soon as a worker is free, first come first served; what is due first
happens first, and of two things due together the one with the lower index.

Nobody looks at the deadline while work is still to come in. So the cut-off is the deadline or, if
that is later, the last submission, and nothing happens after it. What comes in last after the
deadline comes in for nothing: it is cut off at once.

Main statements: no step begins work beyond the number of workers (`running_le_of_step`), and
running a schedule keeps the number of pieces of work (`length_drive`).
-/
namespace ControlPlane

/-- When work comes in, who does it, and when it is cut off. -/
structure Schedule where
  workers : Nat
  start : Instant
  interval : Duration
  /-- When the time for the work is up. -/
  deadline : Instant
  /-- The deadline, or the last submission if that is later. -/
  cutoff : Instant

namespace Schedule

variable {α σ : Type}

/-- When the work at an index is submitted. -/
def submission (schedule : Schedule) (index : Nat) : Instant :=
  schedule.start.later ⟨index * schedule.interval.nanoseconds⟩

/-- Whether work goes on at an instant: until the deadline, and beyond it before the cut-off. -/
def isOpen (schedule : Schedule) (t : Instant) : Bool :=
  decide (t ≤ schedule.deadline) || decide (t < schedule.cutoff)

/-- Whether work is being done. -/
def isRunning : Stage α → Bool
  | .running _ _ => true
  | _ => false

/-- Whether work waits for a worker. -/
def isQueued : Stage α → Bool
  | .queued _ => true
  | _ => false

/-- The number of busy workers. -/
def busy (stages : List (Stage α)) : Nat :=
  stages.countP isRunning

/-- When something happens next to the work at an index. -/
def due? (schedule : Schedule) (index : Nat) : Stage α → Option Instant
  | .upcoming _ => some (schedule.submission index)
  | .running wake _ => if schedule.isOpen wake then some wake else none
  | _ => none

theorem due?_running {schedule : Schedule} {index : Nat} {wake t : Instant} {work : Dialogue α} :
    schedule.due? index (.running wake work) = some t ↔ wake = t ∧ schedule.isOpen wake = true := by
  rw [due?]
  split
  · simp [*]
  · simp [*]

/-- Where something happens first, for stages from an index on. -/
def earliest (schedule : Schedule) (index : Nat) : List (Stage α) → Option (Instant × Nat)
  | [] => none
  | stage :: rest =>
    match schedule.due? index stage, schedule.earliest (index + 1) rest with
    | some t, some (t', k) => if t' < t then some (t', k) else some (t, index)
    | some t, none => some (t, index)
    | none, later => later

/-- The work that a free worker takes up at an instant. -/
def startable? (schedule : Schedule) (stages : List (Stage α)) (now : Instant) : Option Nat :=
  if schedule.isOpen now ∧ busy stages < schedule.workers then stages.findIdx? isQueued else none

/-- A stage after what is due to it has happened. -/
def perform (stage : Stage α) (world : World σ) : Stage α × World σ :=
  match stage with
  | .upcoming work => (.queued work, world)
  | .queued work => (.running world.clock work, world)
  | .running _ work =>
    match work.advance world with
    | (.ended result, world) => (.ended result, world)
    | (.sleeping wake rest, world) => (.running wake rest, world)
  | .ended result => (.ended result, world)

/-- What happens next, and when: a free worker takes up work, or something is due before the
cut-off. -/
def next? (schedule : Schedule) (stages : List (Stage α)) (now : Instant) :
    Option (Instant × Nat) :=
  match schedule.startable? stages now with
  | some k => some (now, k)
  | none =>
    match schedule.earliest 0 stages with
    | some (t, k) => if t ≤ schedule.cutoff then some (t, k) else none
    | none => none

/-- One step of a pool. -/
def step (schedule : Schedule) (stages : List (Stage α)) (world : World σ) :
    Option (List (Stage α) × World σ) :=
  match schedule.next? stages world.clock with
  | none => none
  | some (t, k) =>
    match stages[k]? with
    | none | some (.ended _) => none
    | some stage =>
      let (stage, world) := perform stage { world with clock := t }
      some (stages.set k stage, world)

theorem later_perform {stage : Stage α} (world : World σ) (h : ∀ result, stage ≠ .ended result) :
    Stage.Later (perform stage world).1 stage := by
  cases stage with
  | upcoming work => exact .submitted work
  | queued work => exact .started _ work
  | running wake work =>
    unfold perform
    simp only
    split
    · exact .finished wake work _
    · rename_i hadv
      exact .resumed wake _ (Dialogue.advance_rest hadv)
  | ended result => exact absurd rfl (h result)

theorem step_eq_some {schedule : Schedule} {stages stages' : List (Stage α)}
    {world world' : World σ} (h : schedule.step stages world = some (stages', world')) :
    ∃ t k stage, schedule.next? stages world.clock = some (t, k) ∧ stages[k]? = some stage ∧
      (∀ result, stage ≠ .ended result) ∧
      stages' = stages.set k (perform stage { world with clock := t }).1 ∧
      world' = (perform stage { world with clock := t }).2 := by
  unfold step at h
  split at h
  · simp at h
  · rename_i t k hnext
    split at h
    · simp at h
    · simp at h
    · rename_i stage hended hk
      simp only [Option.some.injEq, Prod.mk.injEq] at h
      exact ⟨t, k, stage, hnext, hk, fun result hr => hended result (hr ▸ rfl), h.1.symm,
        h.2.symm⟩

theorem step_later {schedule : Schedule} {stages stages' : List (Stage α)}
    {world world' : World σ} (h : schedule.step stages world = some (stages', world')) :
    Stage.ListLater stages' stages := by
  obtain ⟨t, k, stage, -, hk, hne, rfl, -⟩ := step_eq_some h
  exact Stage.listLater_set hk (later_perform _ hne)

/-- Runs a pool until nothing more happens before the cut-off. -/
def drive (schedule : Schedule) (stages : List (Stage α)) (world : World σ) :
    List (Stage α) × World σ :=
  match _h : schedule.step stages world with
  | none => (stages, world)
  | some (stages', world') => schedule.drive stages' world'
termination_by Stage.wellFounded_later.wrap stages
decreasing_by exact step_later _h

/-! ## Steps -/

theorem length_drive (schedule : Schedule) (stages : List (Stage α)) (world : World σ) :
    (schedule.drive stages world).1.length = stages.length := by
  fun_induction drive schedule stages world with
  | case1 => rfl
  | case2 stages world stages' world' h ih =>
    obtain ⟨_, k, _, -, -, -, rfl, -⟩ := step_eq_some h
    rw [ih, List.length_set]

theorem earliest_eq_some {schedule : Schedule} {index k : Nat} {t : Instant}
    {stages : List (Stage α)} (h : schedule.earliest index stages = some (t, k)) :
    ∃ stage, index ≤ k ∧ stages[k - index]? = some stage ∧ schedule.due? k stage = some t := by
  induction stages generalizing index t k with
  | nil => simp [earliest] at h
  | cons stage rest ih =>
    have later : schedule.earliest (index + 1) rest = some (t, k) →
        ∃ s, index ≤ k ∧ (stage :: rest)[k - index]? = some s ∧ schedule.due? k s = some t := by
      intro hrest
      obtain ⟨s, hle, hs, hdue⟩ := ih hrest
      refine ⟨s, by omega, ?_, hdue⟩
      have : k - index = (k - (index + 1)) + 1 := by omega
      simpa [this] using hs
    unfold earliest at h
    split at h
    · rename_i t₁ t₂ k₂ hdue hrest
      split at h
      · exact later (hrest.trans h)
      · simp only [Option.some.injEq, Prod.mk.injEq] at h
        obtain ⟨rfl, rfl⟩ := h
        exact ⟨stage, Nat.le_refl _, by simp, hdue⟩
    · rename_i t₁ hdue hrest
      simp only [Option.some.injEq, Prod.mk.injEq] at h
      obtain ⟨rfl, rfl⟩ := h
      exact ⟨stage, Nat.le_refl _, by simp, hdue⟩
    · exact later h

/-- What happens next is that a free worker takes up work, or what is due first. -/
theorem next?_eq_some {schedule : Schedule} {stages : List (Stage α)} {now t : Instant} {k : Nat}
    (h : schedule.next? stages now = some (t, k)) :
    ∃ stage, stages[k]? = some stage ∧
      (t = now ∧ isQueued stage = true ∧ schedule.isOpen now = true ∧
          busy stages < schedule.workers ∨
        schedule.earliest 0 stages = some (t, k) ∧ schedule.due? k stage = some t ∧
          t ≤ schedule.cutoff) := by
  unfold next? at h
  split at h
  · rename_i i hstart
    rw [Option.some.injEq, Prod.mk.injEq] at h
    obtain ⟨rfl, rfl⟩ := h
    unfold startable? at hstart
    split at hstart
    · rename_i hfree
      obtain ⟨hlt, hqueued, -⟩ := List.findIdx?_eq_some_iff_getElem.1 hstart
      exact ⟨_, List.getElem?_eq_getElem hlt, Or.inl ⟨rfl, hqueued, hfree⟩⟩
    · exact absurd hstart (by simp)
  · split at h
    · rename_i t' k' hearliest
      split at h
      · rename_i hcutoff
        rw [Option.some.injEq, Prod.mk.injEq] at h
        obtain ⟨rfl, rfl⟩ := h
        obtain ⟨stage, -, hk, hdue⟩ := earliest_eq_some hearliest
        exact ⟨stage, hk, Or.inr ⟨hearliest, hdue, hcutoff⟩⟩
      · exact absurd h (by simp)
    · exact absurd h (by simp)

theorem busy_lt_of_next {schedule : Schedule} {stages : List (Stage α)} {now t : Instant}
    {k : Nat} {work : Dialogue α} (h : schedule.next? stages now = some (t, k))
    (hk : stages[k]? = some (.queued work)) : busy stages < schedule.workers := by
  obtain ⟨stage, hstage, ⟨-, -, -, hfree⟩ | ⟨-, hdue, -⟩⟩ := next?_eq_some h
  · exact hfree
  · rw [hk, Option.some.injEq] at hstage
    subst hstage
    exact absurd hdue (by simp [due?])

theorem isRunning_perform {stage : Stage α} (world : World σ)
    (h : isRunning (perform stage world).1 = true) :
    isRunning stage = true ∨ ∃ work, stage = .queued work := by
  cases stage with
  | upcoming work => simp [perform, isRunning] at h
  | queued work => exact .inr ⟨work, rfl⟩
  | running wake work => exact .inl rfl
  | ended result => simp [perform, isRunning] at h

theorem running_le_of_step {schedule : Schedule} {stages stages' : List (Stage α)}
    {world world' : World σ} (h : schedule.step stages world = some (stages', world'))
    (hbusy : busy stages ≤ schedule.workers) : busy stages' ≤ schedule.workers := by
  obtain ⟨t, k, stage, hnext, hk, -, rfl, -⟩ := step_eq_some h
  obtain ⟨hlt, hget⟩ := List.getElem?_eq_some_iff.1 hk
  unfold busy at hbusy ⊢
  rw [List.countP_set hlt, hget]
  by_cases hrun : isRunning (perform stage { world with clock := t }).1 = true
  · rcases isRunning_perform _ hrun with hbefore | ⟨work, rfl⟩
    · have hpos : 0 < stages.countP isRunning :=
        List.countP_pos_iff.2 ⟨stage, hget ▸ List.getElem_mem hlt, hbefore⟩
      simp only [hbefore, hrun, if_true]
      omega
    · have := busy_lt_of_next hnext hk
      unfold busy at this
      simp only [hrun, if_true]
      omega
  · simp only [hrun]
    simp only [Bool.false_eq_true, if_false]
    omega

end Schedule

end ControlPlane
