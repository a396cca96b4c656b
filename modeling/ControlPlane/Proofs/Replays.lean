import ControlPlane.Proofs.Transcripts

/-!
# What a server makes of attempts

Over a link that is up, a server answers request by request, each in the state that the one before
has left. `Server.handle` is the answer to one request, and `Replays` goes through exchanges; what
a dialogue exchanges in a world is such a replay (`replays_of_conducts`), so that what becomes of
the server's state can be told from the attempts alone. `Connection.outcome` is what one call comes
to at a server in a state.
-/

namespace ControlPlane

variable {σ α : Type}

/-- How a request ends at a server in a state, and the state that it leaves. -/
def Server.handle (server : Server σ) (request : Request) (state : σ) : Delivery × σ :=
  let (answer, state') := server request.url state
  (if request.patience < answer.delay then .late
    else match answer.content with
      | some (status, body) => .reply status body
      | none => .failed (.closedEarly request.url.text), state')

/-- Requests get through to this server. -/
structure World.Serves (world : World σ) (server : Server σ) : Prop where
  up : world.link = .up
  same : world.server = server

/-- Exchanges with a server, from a state to a state. -/
inductive Replays (server : Server σ) : σ → List Exchange → σ → Prop
  | nil (state : σ) : Replays server state [] state
  | cons {request : Request} {state state' : σ} {rest : List Exchange}
    (h : Replays server (server.handle request state).2 rest state') :
    Replays server state (⟨request, (server.handle request state).1⟩ :: rest) state'

theorem deliver_of_serves {world : World σ} {server : Server σ} (h : world.Serves server)
    (request : Request) :
    (world.deliver request).1 = (server.handle request world.state).1 ∧
      (world.afterRequest request).state = (server.handle request world.state).2 ∧
      (world.afterRequest request).Serves server := by
  obtain ⟨hup, rfl⟩ := h
  simp only [World.afterRequest, World.after, World.deliver, hup, Server.handle]
  split
  · exact ⟨rfl, rfl, rfl, rfl⟩
  · cases (world.server request.url world.state).1.content with
    | some reply => exact ⟨rfl, rfl, rfl, rfl⟩
    | none => exact ⟨rfl, rfl, rfl, rfl⟩

/-- The exchanges of a dialogue are a replay. -/
theorem replays_exchanges (d : Dialogue α) {world : World σ} {server : Server σ}
    (h : world.Serves server) :
    Replays server world.state (d.exchanges world) (d.run world).2.state ∧
      (d.run world).2.Serves server := by
  induction d generalizing world with
  | done a => exact ⟨.nil _, h⟩
  | broken => exact ⟨.nil _, h⟩
  | send request next ih =>
    obtain ⟨hdelivery, hstate, hserves⟩ := deliver_of_serves h request
    obtain ⟨hreplays, hserves'⟩ := ih (world.deliver request).1 hserves
    refine ⟨?_, hserves'⟩
    have hrun : (Dialogue.send request next).run world =
        (next (world.deliver request).1).run (world.afterRequest request) := rfl
    rw [Dialogue.exchanges, hrun, hdelivery]
    rw [hstate, hdelivery] at hreplays
    exact .cons hreplays
  | readClock next ih => exact ih _ h
  | wait span next ih => exact @ih (world.after span) ⟨h.up, h.same⟩
  | draw next ih => exact @ih _ world.drawOne.2 ⟨h.up, h.same⟩

theorem replays_append {server : Server σ} {state state'' : σ} {exchanges more : List Exchange} :
    Replays server state (exchanges ++ more) state'' ↔
      ∃ state', Replays server state exchanges state' ∧ Replays server state' more state'' := by
  constructor
  · intro h
    induction exchanges generalizing state with
    | nil => exact ⟨state, .nil state, h⟩
    | cons exchange rest ih =>
      cases h with
      | cons h =>
        obtain ⟨state', hfirst, hmore⟩ := ih h
        exact ⟨state', .cons hfirst, hmore⟩
  · rintro ⟨state', hfirst, hmore⟩
    induction hfirst with
    | nil => exact hmore
    | cons _ ih => exact .cons (ih hmore)

namespace Connection

/-- What a call comes to at a server in a state, and the state that it leaves. -/
def outcome (connection : Connection) (server : Server σ) (call : Call α) (state : σ) :
    Except ClientError α × σ :=
  match Url.parse (connection.urlText call.toCommand) with
  | .error fault => (.error (.http (.badUrl fault)), state)
  | .ok url =>
    let (delivery, state') := server.handle ⟨url, connection.requestTimeout⟩ state
    (connection.answer call delivery, state')

/-- Attempts at a server, from a state to a state. -/
def Attempted (connection : Connection) (server : Server σ) (state : σ) (attempts : List Attempt)
    (state' : σ) : Prop :=
  Replays server state (attempts.flatMap connection.exchanged) state'

theorem attempted_of_conducts {connection : Connection} {d : Dialogue α} {world world' : World σ}
    {attempts : List Attempt} {value : α} {server : Server σ}
    (h : connection.Conducts d world attempts value world') (hserves : world.Serves server) :
    connection.Attempted server world.state attempts world'.state ∧ world'.Serves server := by
  have hreplays := replays_exchanges d hserves
  rw [h.exchanges, h.run] at hreplays
  exact hreplays

theorem eq_of_attempted_nil {connection : Connection} {server : Server σ} {state state' : σ}
    (h : connection.Attempted server state [] state') : state' = state := by
  cases h
  rfl

theorem attempted_append {connection : Connection} {server : Server σ} {state state'' : σ}
    {attempts more : List Attempt} :
    connection.Attempted server state (attempts ++ more) state'' ↔
      ∃ state', connection.Attempted server state attempts state' ∧
        connection.Attempted server state' more state'' := by
  rw [Attempted, List.flatMap_append, replays_append]
  rfl

theorem outcome_of_attempted {connection : Connection} {server : Server σ} {state state' : σ}
    {call : Call α} {delivery : Delivery}
    (h : connection.Attempted server state [⟨call, delivery⟩] state') :
    connection.outcome server call state = (connection.answer call delivery, state') := by
  rw [Attempted, List.flatMap_singleton, exchanged] at h
  rw [outcome]
  cases hurl : Url.parse (connection.urlText call.toCommand) with
  | error fault =>
    rw [hurl] at h
    cases h
    rw [answer, reply, hurl]
  | ok url =>
    rw [hurl] at h
    cases h with
    | cons h =>
      cases h
      rfl

end Connection

end ControlPlane
