import ControlPlane.Connection
import ControlPlane.World

/-!
# Running actions step by step

An action is a dialogue that may end with an error, and then the rest of it is not carried out.
Here is how an action is run that is put together from others (`Action.run_bind`), that the clock
never goes back meanwhile (`Dialogue.clock_le_run`), and what a request comes to
(`Connection.run_send_ok`).
-/

namespace ControlPlane

namespace World

variable {σ : Type}

/-- The world after a request has ended. -/
def afterRequest (request : Request) (world : World σ) : World σ :=
  (world.deliver request).2.2.after (world.deliver request).2.1

theorem clock_le_afterRequest (request : Request) (world : World σ) :
    world.clock ≤ (world.afterRequest request).clock := by
  rw [← clock_deliver request world]
  exact Instant.le_later _ _

/-- A reply that does not come late is delivered after its delay. -/
theorem deliver_of_reply {request : Request} {world : World σ} {delay : Duration} {status : Nat}
    {body : String} {state : σ} (hlink : world.link = .up)
    (hserver : world.server request.url world.state = (⟨delay, some (status, body)⟩, state))
    (hprompt : delay ≤ request.patience) :
    (world.deliver request).1 = .reply status body ∧ (world.deliver request).2.1 = delay := by
  have hnotLate : ¬ request.patience < delay := Nat.not_lt_of_le hprompt
  simp only [deliver, hlink, hserver, if_neg hnotLate, and_self]

theorem deliver_of_late {request : Request} {world : World σ} (hlink : world.link = .up)
    (hlate : request.patience < (world.server request.url world.state).1.delay) :
    (world.deliver request).1 = .late ∧ (world.deliver request).2.1 = request.patience := by
  simp only [deliver, hlink, if_pos hlate, and_self]

/-- A request arrives at once or not at all. -/
theorem arrivals_afterRequest (request : Request) (world : World σ) :
    ∃ sent : List Arrival, (world.afterRequest request).arrivals = sent ++ world.arrivals ∧
      sent.length ≤ 1 ∧
      ∀ arrival ∈ sent, arrival.target = request.url.target ∧ arrival.arrived = world.clock := by
  have harrivals : (world.afterRequest request).arrivals = (world.deliver request).2.2.arrivals :=
    rfl
  rw [harrivals, deliver]
  split
  · exact ⟨[], rfl, Nat.zero_le _, by simp⟩
  · refine ⟨[⟨request.url.target, world.clock,
      world.clock.later (world.server request.url world.state).1.delay⟩], ?_, Nat.le_refl _, ?_⟩
    · simp only
      split
      · rfl
      · split <;> rfl
    · intro arrival harrival
      rw [List.mem_singleton.1 harrival]
      exact ⟨rfl, rfl⟩

end World

namespace Dialogue

variable {σ α : Type}

/-- Time does not go back. -/
theorem clock_le_run (d : Dialogue α) (world : World σ) : world.clock ≤ (d.run world).2.clock := by
  induction d generalizing world with
  | done a => exact Instant.le_refl _
  | broken => exact Instant.le_refl _
  | send request next ih =>
    exact Instant.le_trans (World.clock_le_afterRequest request world) (ih _ _)
  | readClock next ih => exact ih _ world
  | wait span next ih => exact Instant.le_trans (Instant.le_later _ _) (ih (world.after span))
  | draw next ih => exact ih _ world.drawOne.2

end Dialogue

namespace Action

variable {σ α β : Type}

/-- One action after another, unless the first ends with an error or breaks off. -/
theorem run_bind (action : Action α) (f : α → Action β) (world : World σ) :
    (action >>= f).run world =
      match action.run world with
      | (some (.ok a), world) => (f a).run world
      | (some (.error error), world) => (some (.error error), world)
      | (none, world) => (none, world) := by
  have hbind : (action >>= f).run world =
      ((ExceptT.run action).bind fun result => ExceptT.bindCont f result).run world := rfl
  rw [hbind, Dialogue.run_bind]
  rcases hrun : (ExceptT.run action).run world with ⟨_ | result, world'⟩
  · simp only [Action.run, hrun]
  · cases result with
    | error error =>
      simp only [Action.run, hrun]
      rfl
    | ok a =>
      simp only [Action.run, hrun]
      rfl

theorem run_bind_ok {action : Action α} {f : α → Action β} {world world' : World σ} {a : α}
    (h : action.run world = (some (.ok a), world')) :
    (action >>= f).run world = (f a).run world' := by
  rw [run_bind, h]

theorem run_bind_error {action : Action α} {f : α → Action β} {world world' : World σ}
    {error : ClientError} (h : action.run world = (some (.error error), world')) :
    (action >>= f).run world = (some (.error error), world') := by
  rw [run_bind, h]

theorem run_bind_none {action : Action α} {f : α → Action β} {world world' : World σ}
    (h : action.run world = (none, world')) : (action >>= f).run world = (none, world') := by
  rw [run_bind, h]

/-- What is made of a value changes nothing in the world. -/
theorem run_map (action : Action α) (f : α → β) (world : World σ) :
    (do let a ← action; return f a : Action β).run world =
      ((action.run world).1.map (Except.map f), (action.run world).2) := by
  rw [run_bind]
  rcases action.run world with ⟨_ | _ | a, world'⟩
  · rfl
  · rfl
  · rfl

theorem run_pause_bind (span : Duration) (f : Unit → Action α) (world : World σ) :
    (ofDialogue (Dialogue.pause span) >>= f).run world = (f ()).run (world.after span) := rfl

/-- An instant after the present is counted from the clock, if the clock can represent it. -/
theorem run_instantAfter {span : Duration} {world : World σ} {instant : Instant}
    (h : world.clock.later? span = some instant) :
    (instantAfter span).run world = (some (.ok instant), world) := by
  simp only [Action.run, instantAfter, ExceptT.run_mk, Dialogue.run, h]

theorem run_instantAfter_none {span : Duration} {world : World σ}
    (h : world.clock.later? span = none) : (instantAfter span).run world = (none, world) := by
  simp only [Action.run, instantAfter, ExceptT.run_mk, Dialogue.run, h]

/-- What is made of an instant after the present is a dialogue that looks at the clock, and breaks
off there if it has to. -/
theorem exceptRun_instantAfter_bind (span : Duration) (f : Instant → Action α) :
    ExceptT.run (instantAfter span >>= f) = .readClock fun now =>
      match now.later? span with
      | some instant => ExceptT.run (f instant)
      | none => .broken := by
  refine congrArg Dialogue.readClock (funext fun now => ?_)
  cases hinstant : now.later? span with
  | some instant => simp only [hinstant]; rfl
  | none => simp only [hinstant]; rfl

end Action

/-! ## Requests -/

namespace Connection

variable {σ : Type}

theorem exceptRun_send {connection : Connection} {command : Command} {url : Url}
    (h : Url.parse (connection.urlText command) = .ok url) :
    ExceptT.run (connection.send command) =
      .send ⟨url, connection.requestTimeout⟩ fun delivery =>
        .done (receive command url delivery) := by
  rw [send, h]
  rfl

theorem run_send_ok {connection : Connection} {command : Command} {url : Url} {world : World σ}
    (h : Url.parse (connection.urlText command) = .ok url) :
    (connection.send command).run world =
      (some (receive command url (world.deliver ⟨url, connection.requestTimeout⟩).1),
        world.afterRequest ⟨url, connection.requestTimeout⟩) := by
  rw [Action.run, exceptRun_send h]
  rfl

theorem run_send_error {connection : Connection} {command : Command} {fault : Url.Fault}
    {world : World σ} (h : Url.parse (connection.urlText command) = .error fault) :
    (connection.send command).run world =
      (some (.error (.http (.badUrl fault))), world) := by
  rw [send, h]
  rfl

end Connection

end ControlPlane
