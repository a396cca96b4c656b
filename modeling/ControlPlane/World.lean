import ControlPlane.Dialogue

/-!
# Running a dialogue

A world has a clock, a server with a state of its own, a link to it, and a source of letters. A
dialogue is run in a world step by step; only waiting and slow answers take time. The world
keeps a record of the requests that reached the server.

Main statements: a dialogue that only ends changes nothing (`run_done`), a sequence is run one
after the other (`run_bind`), and over a link that is down no request arrives
(`arrivals_run_of_down`).
-/
namespace ControlPlane

/-- What a server makes of a request: a reply or none, after a while. -/
structure Answer where
  delay : Duration
  content : Option (Nat × String)
  deriving Repr

/-- A server with states `σ`. -/
abbrev Server (σ : Type) := Url → σ → Answer × σ

/-- Whether requests get through to servers. -/
inductive Link where
  | up
  | down
  deriving DecidableEq, Repr

/-- A request that reached the server, and when it was there. -/
structure Arrival where
  target : String
  arrived : Instant
  left : Instant
  deriving Repr

/-- Everything outside the client. -/
structure World (σ : Type) where
  clock : Instant
  server : Server σ
  state : σ
  link : Link
  letters : Nat → Fin 62
  drawn : Nat
  /-- The requests that arrived, the latest first. -/
  arrivals : List Arrival

namespace World

variable {σ : Type}

/-- How many of the requests the server held when one of them arrived, itself included. -/
def heldWith (arrivals : List Arrival) (arrival : Arrival) : Nat :=
  let held := arrivals.filter fun other =>
    !decide (arrival.arrived < other.arrived) && decide (arrival.arrived < other.left)
  max 1 held.length

/-- The greatest number of requests that the server held at once. -/
def peak (world : World σ) : Nat :=
  (world.arrivals.map (heldWith world.arrivals)).foldl max 0

/-- Whether a host is an address, which needs no look-up. -/
def isAddress (host : String) : Bool :=
  host.toList.head? == some '[' || host.toList.all fun c => c.isDigit || c == '.'

/-- What becomes of a request that finds no way out. -/
def stranded (url : Url) : TransportFailure :=
  if isAddress url.host || url.host == "localhost" then .unreachable url.text
  else .unresolvedHost url.text

/-- What becomes of a request and how long it takes. -/
def deliver (request : Request) (world : World σ) : Delivery × Duration × World σ :=
  match world.link with
  | .down => (.failed (stranded request.url), .zero, world)
  | .up =>
    let (answer, state) := world.server request.url world.state
    let arrival : Arrival :=
      ⟨request.url.target, world.clock, world.clock.later answer.delay⟩
    let world := { world with state, arrivals := arrival :: world.arrivals }
    if request.patience < answer.delay then (.late, request.patience, world)
    else
      match answer.content with
      | some (status, body) => (.reply status body, answer.delay, world)
      | none => (.failed (.closedEarly request.url.text), answer.delay, world)

/-- Delivering a request does not move the clock; its sender has yet to wait. -/
theorem clock_deliver (request : Request) (world : World σ) :
    (world.deliver request).2.2.clock = world.clock := by
  unfold deliver
  split
  · rfl
  · simp only
    split
    · rfl
    · split <;> rfl

/-- The world a while later. -/
def after (span : Duration) (world : World σ) : World σ :=
  { world with clock := world.clock.later span }

/-- The world after one more letter was drawn. -/
def drawOne (world : World σ) : Fin 62 × World σ :=
  (world.letters world.drawn, { world with drawn := world.drawn + 1 })

end World

namespace Dialogue

variable {σ α β : Type}

/-- Runs a dialogue to its end; no value means that it broke off. -/
def run : Dialogue α → World σ → Option α × World σ
  | .done a, world => (some a, world)
  | .broken, world => (none, world)
  | .send request next, world =>
    let (delivery, span, world) := world.deliver request
    (next delivery).run (world.after span)
  | .readClock next, world => (next world.clock).run world
  | .wait span next, world => next.run (world.after span)
  | .draw next, world =>
    let (letter, world) := world.drawOne
    (next letter).run world

@[simp] theorem run_done (a : α) (world : World σ) : (done a).run world = (some a, world) := rfl

theorem run_bind (d : Dialogue α) (f : α → Dialogue β) (world : World σ) :
    (d.bind f).run world =
      match d.run world with
      | (some a, world) => (f a).run world
      | (none, world) => (none, world) := by
  induction d generalizing world with
  | done a => rfl
  | broken => rfl
  | send request next ih => exact ih _ _
  | readClock next ih => exact ih _ _
  | wait span next ih => exact ih _
  | draw next ih => exact ih _ _

theorem arrivals_run_of_down (d : Dialogue α) {world : World σ} (h : world.link = .down) :
    (d.run world).2.arrivals = world.arrivals ∧ (d.run world).2.link = .down := by
  induction d generalizing world with
  | done a => exact ⟨rfl, h⟩
  | broken => exact ⟨rfl, h⟩
  | send request next ih =>
    simp only [run, World.deliver, h]
    exact ih _ (by exact h)
  | readClock next ih => exact ih _ h
  | wait span next ih => exact @ih (world.after span) h
  | draw next ih => exact @ih _ world.drawOne.2 h

end Dialogue

/-- Runs an action to its end. -/
def Action.run {σ α : Type} (action : Action α) (world : World σ) :
    Option (Except ClientError α) × World σ :=
  Dialogue.run (ExceptT.run action) world

end ControlPlane
