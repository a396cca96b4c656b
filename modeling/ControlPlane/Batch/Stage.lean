import ControlPlane.World

/-!
# Work in stages

A piece of work in a pool is yet to be submitted, waits for a worker, is being worked on, or has
ended. Work goes on only: no stage comes back, and a dialogue that goes on has less before it.

A dialogue goes on until it needs time (`Dialogue.advance`); what is then left is a part of it
(`advance_rest`).

Main statement: `wellFounded_later` — a list of stages cannot change for ever.
-/
namespace ControlPlane

namespace Dialogue

variable {α σ : Type}

/-- What is left of a dialogue after one answer. -/
inductive Child : Dialogue α → Dialogue α → Prop
  | send (request : Request) (next : Delivery → Dialogue α) (delivery : Delivery) :
    Child (next delivery) (.send request next)
  | readClock (next : Instant → Dialogue α) (now : Instant) : Child (next now) (.readClock next)
  | wait (span : Duration) (next : Dialogue α) : Child next (.wait span next)
  | draw (next : Fin 62 → Dialogue α) (letter : Fin 62) : Child (next letter) (.draw next)

theorem wellFounded_child : WellFounded (Child (α := α)) := by
  refine ⟨fun d => ?_⟩
  induction d with
  | done a => exact ⟨_, fun _ h => nomatch h⟩
  | broken => exact ⟨_, fun _ h => nomatch h⟩
  | send request next ih => exact ⟨_, fun _ h => by cases h; exact ih _⟩
  | readClock next ih => exact ⟨_, fun _ h => by cases h; exact ih _⟩
  | wait span next ih => exact ⟨_, fun _ h => by cases h; exact ih⟩
  | draw next ih => exact ⟨_, fun _ h => by cases h; exact ih _⟩

/-- What is left of a dialogue after some answers. -/
abbrev Rest : Dialogue α → Dialogue α → Prop := Relation.TransGen Child

/-- Where a dialogue stands that was let go on. -/
inductive Progress (α : Type) where
  /-- It has ended, without a value if it broke off. -/
  | ended (result : Option α)
  /-- It goes on at an instant. -/
  | sleeping (wake : Instant) (rest : Dialogue α)

/-- Lets a dialogue go on until it needs time. -/
def advance : Dialogue α → World σ → Progress α × World σ
  | .done a, world => (.ended (some a), world)
  | .broken, world => (.ended none, world)
  | .send request next, world =>
    let (delivery, span, world) := world.deliver request
    (.sleeping (world.clock.later span) (next delivery), world)
  | .readClock next, world => (next world.clock).advance world
  | .wait span next, world => (.sleeping (world.clock.later span) next, world)
  | .draw next, world =>
    let (letter, world) := world.drawOne
    (next letter).advance world

theorem advance_rest {d rest : Dialogue α} {world world' : World σ} {wake : Instant}
    (h : d.advance world = (.sleeping wake rest, world')) : Rest rest d := by
  induction d generalizing world with
  | done a => simp [advance] at h
  | broken => simp [advance] at h
  | send request next ih =>
    simp only [advance, Prod.mk.injEq, Progress.sleeping.injEq] at h
    obtain ⟨⟨-, rfl⟩, -⟩ := h
    exact .single (.send request next _)
  | readClock next ih => exact .tail (ih _ h) (.readClock next _)
  | wait span next ih =>
    simp only [advance, Prod.mk.injEq, Progress.sleeping.injEq] at h
    obtain ⟨⟨-, rfl⟩, -⟩ := h
    exact .single (.wait span next)
  | draw next ih => exact .tail (ih _ h) (.draw next _)

end Dialogue

/-- Where a piece of work in a pool stands. -/
inductive Stage (α : Type) where
  | upcoming (work : Dialogue α)
  | queued (work : Dialogue α)
  /-- Goes on at an instant. -/
  | running (wake : Instant) (work : Dialogue α)
  /-- Has ended, without a value if it broke off. -/
  | ended (result : Option α)

namespace Stage

variable {α : Type}

/-- One stage comes after another. -/
inductive Later : Stage α → Stage α → Prop
  | submitted (work : Dialogue α) : Later (.queued work) (.upcoming work)
  | started (wake : Instant) (work : Dialogue α) : Later (.running wake work) (.queued work)
  | resumed (wake wake' : Instant) {rest work : Dialogue α} (h : Dialogue.Rest rest work) :
    Later (.running wake' rest) (.running wake work)
  | finished (wake : Instant) (work : Dialogue α) (result : Option α) :
    Later (.ended result) (.running wake work)

theorem acc_ended (result : Option α) : Acc Later (.ended result) :=
  ⟨_, fun _ h => nomatch h⟩

theorem acc_running (wake : Instant) (work : Dialogue α) : Acc Later (.running wake work) := by
  induction Dialogue.wellFounded_child.transGen.apply work generalizing wake with
  | intro work _ ih =>
    refine ⟨_, fun stage h => ?_⟩
    cases h with
    | resumed _ wake' hrest => exact ih _ hrest wake'
    | finished _ _ result => exact acc_ended result

theorem acc_queued (work : Dialogue α) : Acc Later (.queued work) :=
  ⟨_, fun _ h => by cases h; exact acc_running _ _⟩

theorem acc (stage : Stage α) : Acc Later stage := by
  cases stage with
  | upcoming work => exact ⟨_, fun _ h => by cases h; exact acc_queued _⟩
  | queued work => exact acc_queued work
  | running wake work => exact acc_running wake work
  | ended result => exact acc_ended result

/-- One list of stages comes after another: one of its stages does, the others are the same. -/
inductive ListLater : List (Stage α) → List (Stage α) → Prop
  | head {stage stage' : Stage α} (rest : List (Stage α)) (h : Later stage' stage) :
    ListLater (stage' :: rest) (stage :: rest)
  | tail (stage : Stage α) {rest rest' : List (Stage α)} (h : ListLater rest' rest) :
    ListLater (stage :: rest') (stage :: rest)

theorem acc_cons {stage : Stage α} {rest : List (Stage α)} (hrest : Acc ListLater rest) :
    Acc ListLater (stage :: rest) := by
  induction acc stage generalizing rest with
  | intro stage _ ihStage =>
    induction hrest with
    | intro rest hacc ihRest =>
      refine ⟨_, fun stages h => ?_⟩
      cases h with
      | head _ h => exact ihStage _ h (Acc.intro _ hacc)
      | tail _ h => exact ihRest _ h

theorem wellFounded_later : WellFounded (ListLater (α := α)) := by
  refine ⟨fun stages => ?_⟩
  induction stages with
  | nil => exact ⟨_, fun _ h => nomatch h⟩
  | cons stage rest ih => exact acc_cons ih

theorem listLater_set {stages : List (Stage α)} {k : Nat} {stage stage' : Stage α}
    (hk : stages[k]? = some stage) (h : Later stage' stage) :
    ListLater (stages.set k stage') stages := by
  induction stages generalizing k with
  | nil => simp at hk
  | cons head rest ih =>
    cases k with
    | zero =>
      simp only [List.getElem?_cons_zero, Option.some.injEq] at hk
      subst hk
      exact .head rest h
    | succ k => exact .tail head (ih (by simpa using hk))

end Stage

end ControlPlane
