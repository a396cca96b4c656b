import ControlPlane.Client
import ControlPlane.Proofs.ActionRuns
import ControlPlane.Proofs.RequestUrls

/-!
# What is asked, and what is answered

A dialogue trades requests for deliveries, one after another; `Dialogue.exchanges` lists what it
trades in a world, and over a link that is up these are the requests that arrive
(`arrivals_run_of_up`).

A client makes calls rather than requests. An attempt is a call with the delivery that its request
came to, and `Connection.Conducts` says that a dialogue consists of some attempts and of nothing
else. A protocol tells which attempts an action may consist of and what it comes to with them; the
protocol of a sequence is one protocol after another (`keepsTo_bind`), so that what an action does
in every world is put together from what its parts do.
-/

namespace ControlPlane

/-- A request and how it ended. -/
structure Exchange where
  request : Request
  delivery : Delivery

namespace Dialogue

variable {σ α β : Type}

/-- The exchanges of a dialogue in a world, the first first. -/
def exchanges : Dialogue α → World σ → List Exchange
  | .done _, _ => []
  | .broken, _ => []
  | .send request next, world =>
    ⟨request, (world.deliver request).1⟩ ::
      (next (world.deliver request).1).exchanges (world.afterRequest request)
  | .readClock next, world => (next world.clock).exchanges world
  | .wait span next, world => next.exchanges (world.after span)
  | .draw next, world => (next world.drawOne.1).exchanges world.drawOne.2

/-- Of one dialogue after another, the exchanges of the second follow those of the first. -/
theorem exchanges_bind {d : Dialogue α} {world world' : World σ} {a : α}
    (h : d.run world = (some a, world')) (f : α → Dialogue β) :
    (d.bind f).exchanges world = d.exchanges world ++ (f a).exchanges world' := by
  induction d generalizing world with
  | done b =>
    obtain ⟨rfl, rfl⟩ : b = a ∧ world = world' := by simpa using h
    rfl
  | broken => exact absurd h (by simp [run])
  | send request next ih => exact congrArg (_ :: ·) (ih _ h)
  | readClock next ih => exact ih _ h
  | wait span next ih => exact ih h
  | draw next ih => exact ih _ h

/-- Over a link that is up, the requests of a dialogue are those that arrive. -/
theorem arrivals_run_of_up (d : Dialogue α) {world : World σ} (h : world.link = .up) :
    (d.run world).2.link = .up ∧
      (d.run world).2.arrivals.map Arrival.target =
        ((d.exchanges world).map fun exchange => exchange.request.url.target).reverse ++
          world.arrivals.map Arrival.target := by
  induction d generalizing world with
  | done a => exact ⟨h, rfl⟩
  | broken => exact ⟨h, rfl⟩
  | send request next ih =>
    obtain ⟨hlink, harrivals⟩ : (world.afterRequest request).link = .up ∧
        (world.afterRequest request).arrivals.map Arrival.target =
          request.url.target :: world.arrivals.map Arrival.target := by
      simp only [World.afterRequest, World.after, World.deliver, h]
      split
      · exact ⟨rfl, rfl⟩
      · split
        · exact ⟨rfl, rfl⟩
        · exact ⟨rfl, rfl⟩
    obtain ⟨hlink', harrivals'⟩ := ih (world.deliver request).1 hlink
    refine ⟨hlink', harrivals'.trans ?_⟩
    rw [harrivals]
    simp [exchanges]
  | readClock next ih => exact ih _ h
  | wait span next ih => exact @ih (world.after span) h
  | draw next ih => exact @ih _ world.drawOne.2 h

end Dialogue

/-- A call, and how its request ended. -/
structure Attempt where
  {Answer : Type}
  call : Call Answer
  delivery : Delivery

/-- A call of this name was made. -/
def Made (attempts : List Attempt) (name : String) : Prop :=
  ∃ attempt ∈ attempts, attempt.call.name = name

@[simp] theorem not_made_nil (name : String) : ¬ Made [] name := by
  rintro ⟨attempt, hattempt, -⟩
  exact List.not_mem_nil hattempt

@[simp] theorem made_cons (attempt : Attempt) (attempts : List Attempt) (name : String) :
    Made (attempt :: attempts) name ↔ attempt.call.name = name ∨ Made attempts name := by
  simp [Made]

/-- The attempts at calls of some names are all in one part. -/
structure AllIn (names : List String) (part attempts : List Attempt) : Prop where
  subset : part ⊆ attempts
  all : ∀ attempt ∈ attempts, attempt.call.name ∈ names → attempt ∈ part

theorem made_iff_of_allIn {names : List String} {part attempts : List Attempt}
    (h : AllIn names part attempts) {name : String} (hname : name ∈ names) :
    Made attempts name ↔ Made part name := by
  constructor
  · rintro ⟨attempt, hmem, rfl⟩
    exact ⟨attempt, h.all attempt hmem hname, rfl⟩
  · rintro ⟨attempt, hmem, rfl⟩
    exact ⟨attempt, h.subset hmem, rfl⟩

namespace Connection

variable {σ α β : Type}

/-- What the reply to a command comes to if its request ends like this. -/
def reply (connection : Connection) (command : Command) (delivery : Delivery) :
    Except ClientError Json :=
  match Url.parse (connection.urlText command) with
  | .error fault => .error (.http (.badUrl fault))
  | .ok url => receive command url delivery

/-- What a call comes to if its request ends like this. -/
def answer (connection : Connection) (call : Call α) (delivery : Delivery) :
    Except ClientError α :=
  match connection.reply call.toCommand delivery with
  | .error error => .error error
  | .ok body => decoded (call.decode body)

/-- What is exchanged for an attempt: nothing, if its request cannot be written. -/
def exchanged (connection : Connection) (attempt : Attempt) : List Exchange :=
  match Url.parse (connection.urlText attempt.call.toCommand) with
  | .error _ => []
  | .ok url => [⟨⟨url, connection.requestTimeout⟩, attempt.delivery⟩]

/-- A dialogue consists of these attempts, and ends with this value in this world. -/
structure Conducts (connection : Connection) (d : Dialogue α) (world : World σ)
    (attempts : List Attempt) (value : α) (world' : World σ) : Prop where
  run : d.run world = (some value, world')
  exchanges : d.exchanges world = attempts.flatMap connection.exchanged

/-- Among these attempts, a call came to this result. -/
def Answered (connection : Connection) (attempts : List Attempt) (call : Call α)
    (result : Except ClientError α) : Prop :=
  ∃ delivery, Attempt.mk call delivery ∈ attempts ∧ connection.answer call delivery = result

/-! ## Attempts one after another -/

theorem conducts_done (connection : Connection) (a : α) (world : World σ) :
    connection.Conducts (.done a) world [] a world := ⟨rfl, rfl⟩

theorem conducts_pure (connection : Connection) (a : α) (world : World σ) :
    connection.Conducts (ExceptT.run (pure a : Action α)) world [] (.ok a) world := ⟨rfl, rfl⟩

theorem conducts_bind {connection : Connection} {d : Dialogue α} {f : α → Dialogue β}
    {world world' world'' : World σ} {attempts more : List Attempt} {a : α} {b : β}
    (h : connection.Conducts d world attempts a world')
    (hnext : connection.Conducts (f a) world' more b world'') :
    connection.Conducts (d.bind f) world (attempts ++ more) b world'' := by
  refine ⟨?_, ?_⟩
  · rw [Dialogue.run_bind, h.run]
    exact hnext.run
  · rw [Dialogue.exchanges_bind h.run, h.exchanges, hnext.exchanges, List.flatMap_append]

theorem conducts_bind_ok {connection : Connection} {action : Action α} {f : α → Action β}
    {world world' world'' : World σ} {attempts more : List Attempt} {a : α}
    {result : Except ClientError β}
    (h : connection.Conducts (ExceptT.run action) world attempts (.ok a) world')
    (hnext : connection.Conducts (ExceptT.run (f a)) world' more result world'') :
    connection.Conducts (ExceptT.run (action >>= f)) world (attempts ++ more) result world'' :=
  conducts_bind (f := ExceptT.bindCont f) h hnext

theorem conducts_bind_error {connection : Connection} {action : Action α} {f : α → Action β}
    {world world' : World σ} {attempts : List Attempt} {error : ClientError}
    (h : connection.Conducts (ExceptT.run action) world attempts (.error error) world') :
    connection.Conducts (ExceptT.run (action >>= f)) world attempts (.error error) world' := by
  have hbind := conducts_bind (f := ExceptT.bindCont f) h (conducts_done connection _ world')
  rwa [List.append_nil] at hbind

/-- What follows an action may exchange nothing. -/
theorem conducts_bind_silent {connection : Connection} {action : Action α} {f : α → Action β}
    {world world' world'' : World σ} {attempts : List Attempt} {a : α}
    {result : Except ClientError β}
    (h : connection.Conducts (ExceptT.run action) world attempts (.ok a) world')
    (hnext : connection.Conducts (ExceptT.run (f a)) world' [] result world'') :
    connection.Conducts (ExceptT.run (action >>= f)) world attempts result world'' := by
  have hbind := conducts_bind_ok h hnext
  rwa [List.append_nil] at hbind

/-- A value made of a result exchanges nothing more. -/
theorem conducts_map {connection : Connection} {action : Action α} {world world' : World σ}
    {attempts : List Attempt} {result : Except ClientError α}
    (h : connection.Conducts (ExceptT.run action) world attempts result world') (f : α → β) :
    connection.Conducts (ExceptT.run (do let a ← action; return f a)) world attempts
      (result.map f) world' := by
  cases result with
  | error error => exact conducts_bind_error h
  | ok a => exact conducts_bind_silent h (conducts_pure connection (f a) world')

/-- An action can be carried out for its result, error or not. -/
theorem conducts_lift {connection : Connection} {action : Action α}
    {world world' : World σ} {attempts : List Attempt} {result : Except ClientError α}
    (h : connection.Conducts (ExceptT.run action) world attempts result world') :
    connection.Conducts
      (ExceptT.run (ExceptT.lift (ExceptT.run action) : Action (Except ClientError α))) world
      attempts (.ok result) world' := by
  rw [← List.append_nil attempts]
  exact conducts_bind h (conducts_done connection _ world')

/-! ## Answers -/

theorem made_of_answered {connection : Connection} {attempts : List Attempt} {call : Call α}
    {result : Except ClientError α} (h : connection.Answered attempts call result) :
    Made attempts call.name := by
  obtain ⟨delivery, hmem, -⟩ := h
  exact ⟨_, hmem, rfl⟩

@[simp] theorem not_answered_nil (connection : Connection) (call : Call α)
    (result : Except ClientError α) : ¬ connection.Answered [] call result := by
  rintro ⟨delivery, hmem, -⟩
  exact List.not_mem_nil hmem

@[simp] theorem answered_cons_self (connection : Connection) (call : Call α) (delivery : Delivery)
    (attempts : List Attempt) (result : Except ClientError α) :
    connection.Answered (⟨call, delivery⟩ :: attempts) call result ↔
      connection.answer call delivery = result ∨ connection.Answered attempts call result := by
  constructor
  · rintro ⟨other, hmem, hanswer⟩
    rcases List.mem_cons.1 hmem with hhead | hmem
    · cases hhead
      exact .inl hanswer
    · exact .inr ⟨other, hmem, hanswer⟩
  · rintro (hanswer | ⟨other, hmem, hanswer⟩)
    · exact ⟨delivery, List.mem_cons_self, hanswer⟩
    · exact ⟨other, List.mem_cons_of_mem _ hmem, hanswer⟩

theorem answered_cons_of_ne {connection : Connection} {attempt : Attempt} {call : Call α}
    (h : attempt.call.name ≠ call.name) (attempts : List Attempt)
    (result : Except ClientError α) :
    connection.Answered (attempt :: attempts) call result ↔
      connection.Answered attempts call result := by
  constructor
  · rintro ⟨delivery, hmem, hanswer⟩
    rcases List.mem_cons.1 hmem with hhead | hmem
    · exact absurd (congrArg (fun attempt => attempt.call.name) hhead).symm h
    · exact ⟨delivery, hmem, hanswer⟩
  · rintro ⟨delivery, hmem, hanswer⟩
    exact ⟨delivery, List.mem_cons_of_mem _ hmem, hanswer⟩

/-- Nothing is answered to a call that was not made. -/
theorem not_answered_of_not_made {connection : Connection} {attempts : List Attempt}
    {call : Call α} {result : Except ClientError α} (h : ¬ Made attempts call.name) :
    ¬ connection.Answered attempts call result :=
  fun hanswered => h (made_of_answered hanswered)

theorem answered_iff_of_allIn (connection : Connection) {names : List String}
    {part attempts : List Attempt} (h : AllIn names part attempts) {call : Call α}
    (hname : call.name ∈ names) (result : Except ClientError α) :
    connection.Answered attempts call result ↔ connection.Answered part call result := by
  constructor
  · rintro ⟨delivery, hmem, hanswer⟩
    exact ⟨delivery, h.all _ hmem hname, hanswer⟩
  · rintro ⟨delivery, hmem, hanswer⟩
    exact ⟨delivery, h.subset hmem, hanswer⟩

/-! ## Calls -/

/-- Sending a command is one attempt, whether or not its request can be written. -/
theorem exists_conducts_send (connection : Connection) (call : Call α) (world : World σ) :
    ∃ delivery world', connection.Conducts (ExceptT.run (connection.send call.toCommand)) world
      [⟨call, delivery⟩] (connection.reply call.toCommand delivery) world' := by
  cases hurl : Url.parse (connection.urlText call.toCommand) with
  | error fault =>
    refine ⟨.late, world, ?_⟩
    rw [reply, hurl, send, hurl]
    exact ⟨rfl, by simp [exchanged, hurl]; rfl⟩
  | ok url =>
    refine ⟨(world.deliver ⟨url, connection.requestTimeout⟩).1,
      world.afterRequest ⟨url, connection.requestTimeout⟩, ?_⟩
    rw [exceptRun_send hurl, reply, hurl]
    exact ⟨rfl, by simp [exchanged, hurl, Dialogue.exchanges]⟩

theorem conducts_execute_of_send {connection : Connection} {call : Call α}
    (hcall : call.isAsync = false) {world world' : World σ} {delivery : Delivery}
    (h : connection.Conducts (ExceptT.run (connection.send call.toCommand)) world
      [⟨call, delivery⟩] (connection.reply call.toCommand delivery) world') :
    connection.Conducts (ExceptT.run (connection.execute call)) world [⟨call, delivery⟩]
      (connection.answer call delivery) world' := by
  rw [answer]
  cases hreply : connection.reply call.toCommand delivery with
  | error error =>
    rw [hreply] at h
    exact conducts_bind_error (conducts_bind_error h)
  | ok body =>
    rw [hreply] at h
    have hraw : connection.Conducts (ExceptT.run (connection.executeRaw call.toCommand)) world
        [⟨call, delivery⟩] (.ok ⟨none, body⟩) world' := by
      refine conducts_bind_silent h ?_
      simp only [Call.toCommand_isAsync, hcall]
      exact conducts_pure connection _ world'
    exact conducts_bind_silent hraw (conducts_done connection _ world')

/-- A call that starts no job is one attempt. -/
theorem exists_conducts_execute (connection : Connection) {call : Call α}
    (hcall : call.isAsync = false) (world : World σ) :
    ∃ delivery world', connection.Conducts (ExceptT.run (connection.execute call)) world
      [⟨call, delivery⟩] (connection.answer call delivery) world' := by
  obtain ⟨delivery, world', hsend⟩ := exists_conducts_send connection call world
  exact ⟨delivery, world', conducts_execute_of_send hcall hsend⟩

/-! ## Letters -/

/-- Drawing letters exchanges nothing. -/
theorem exists_conducts_letters (connection : Connection) (n : Nat) (world : World σ) :
    ∃ (draws : List (Fin 62)) (world' : World σ), draws.length = n ∧
      connection.Conducts (ExceptT.run (Action.ofDialogue (Dialogue.letters n))) world []
        (.ok (draws.map Dialogue.letter)) world' := by
  have hletters : ∃ (draws : List (Fin 62)) (world' : World σ), draws.length = n ∧
      connection.Conducts (Dialogue.letters n) world [] (draws.map Dialogue.letter) world' := by
    induction n generalizing world with
    | zero => exact ⟨[], world, rfl, conducts_done connection [] world⟩
    | succ n ih =>
      obtain ⟨draws, world', hlength, hrest⟩ := ih world.drawOne.2
      refine ⟨world.drawOne.1 :: draws, world', congrArg (· + 1) hlength, ?_⟩
      have hbind := conducts_bind
        (f := fun rest => .done (Dialogue.letter world.drawOne.1 :: rest)) hrest
        (conducts_done connection _ world')
      exact ⟨hbind.run, hbind.exchanges⟩
  obtain ⟨draws, world', hlength, hconducts⟩ := hletters
  refine ⟨draws, world', hlength, ?_⟩
  rw [← List.append_nil ([] : List Attempt)]
  exact conducts_bind hconducts (conducts_done connection _ world')

/-! ## Requests that cannot be written -/

/-- Every attempt is a request of its own; or else the endpoint is no URL, and nothing is sent. -/
def Sends (connection : Connection) (attempts : List Attempt) (result : Except ClientError α) :
    Prop :=
  (∀ attempt ∈ attempts, ∃ url,
      connection.exchanged attempt = [⟨⟨url, connection.requestTimeout⟩, attempt.delivery⟩]) ∨
    ∃ attempt fault, attempts = [attempt] ∧ connection.exchanged attempt = [] ∧
      result = .error (.http (.badUrl fault))

/-- Either all requests of a connection can be written or none. -/
theorem exchanged_cases (connection : Connection) :
    (∀ attempt, ∃ url,
        connection.exchanged attempt = [⟨⟨url, connection.requestTimeout⟩, attempt.delivery⟩]) ∨
      ∀ attempt, connection.exchanged attempt = [] ∧
        ∃ fault, connection.answer attempt.call attempt.delivery =
          .error (.http (.badUrl fault)) := by
  by_cases hwritten : ∃ command url, Url.parse (connection.urlText command) = .ok url
  · obtain ⟨command, url, hurl⟩ := hwritten
    refine .inl fun attempt => ?_
    obtain ⟨url', hurl'⟩ :=
      Url.exists_parse_of_parse hurl (query connection.credentials attempt.call.toCommand)
    rw [← urlText] at hurl'
    exact ⟨url', by rw [exchanged, hurl']⟩
  · refine .inr fun attempt => ?_
    cases hurl : Url.parse (connection.urlText attempt.call.toCommand) with
    | ok url => exact absurd ⟨_, url, hurl⟩ hwritten
    | error fault => exact ⟨by rw [exchanged, hurl], fault, by rw [answer, reply, hurl]⟩

end Connection

/-! ## Protocols -/

/-- Which attempts an action may consist of, and what it comes to with them. -/
abbrev Protocol (α : Type) := List Attempt → Except ClientError α → Prop

namespace Protocol

variable {α β : Type}

/-- No attempt, and this result. -/
def Ends (result : Except ClientError α) : Protocol α :=
  fun attempts other => attempts = [] ∧ other = result

/-- One attempt at a call, and what it comes to. -/
def Calls (connection : Connection) (call : Call α) : Protocol α :=
  fun attempts result =>
    ∃ delivery, attempts = [⟨call, delivery⟩] ∧ result = connection.answer call delivery

/-- One protocol after another, unless the first comes to an error. -/
inductive Then (first : Protocol α) (next : α → Protocol β) : Protocol β
  | stopped {attempts : List Attempt} {error : ClientError} (h : first attempts (.error error)) :
    Then first next attempts (.error error)
  | continued {attempts more : List Attempt} {a : α} {result : Except ClientError β}
    (h : first attempts (.ok a)) (hnext : next a more result) :
    Then first next (attempts ++ more) result

/-- What follows when a first part comes to this: nothing, if it is an error. -/
def After (first : Except ClientError α) (next : α → Protocol β) : Protocol β :=
  match first with
  | .error error => .Ends (.error error)
  | .ok a => next a

theorem exists_of_after_ok {first : Except ClientError α} {next : α → Protocol β}
    {attempts : List Attempt} {b : β} (h : After first next attempts (.ok b)) :
    ∃ a, first = .ok a ∧ next a attempts (.ok b) := by
  cases first with
  | error error => exact absurd h.2 (by simp)
  | ok a => exact ⟨a, rfl, h⟩

theorem exists_of_after_of_ne_nil {first : Except ClientError α} {next : α → Protocol β}
    {attempts : List Attempt} {result : Except ClientError β} (h : After first next attempts result)
    (hattempts : attempts ≠ []) : ∃ a, first = .ok a ∧ next a attempts result := by
  cases first with
  | error error => exact absurd h.1 hattempts
  | ok a => exact ⟨a, rfl, h⟩

/-- The attempts of one protocol after another fall into two parts. -/
theorem exists_parts_of_then {first : Protocol α} {next : α → Protocol β}
    {attempts : List Attempt} {result : Except ClientError β}
    (h : first.Then next attempts result) :
    ∃ before more middle, attempts = before ++ more ∧ first before middle ∧
      After middle next more result := by
  cases h with
  | stopped hfirst => exact ⟨_, [], .error _, (List.append_nil _).symm, hfirst, rfl, rfl⟩
  | continued hfirst hnext => exact ⟨_, _, .ok _, rfl, hfirst, hnext⟩

/-- All attempts are at calls of these names. -/
def NamesIn (protocol : Protocol α) (names : List String) : Prop :=
  ∀ {attempts result}, protocol attempts result → ∀ attempt ∈ attempts, attempt.call.name ∈ names

/-- An attempt that comes to an error of this kind is the last one, and the error is passed on. -/
def StopsAt (connection : Connection) (counts : ClientError → Prop) (protocol : Protocol α) :
    Prop :=
  ∀ {attempts result}, protocol attempts result → ∀ {before attempt after error},
    attempts = before ++ attempt :: after →
      connection.answer attempt.call attempt.delivery = .error error → counts error →
        after = [] ∧ result = .error error

/-- An error is that of the last attempt, or one of the protocol's own. -/
def Blames (connection : Connection) (own : ClientError → Prop) (protocol : Protocol α) : Prop :=
  ∀ {attempts error}, protocol attempts (.error error) → own error ∨
    ∃ before attempt, attempts = before ++ [attempt] ∧
      connection.answer attempt.call attempt.delivery = .error error

theorem namesIn_ends (result : Except ClientError α) (names : List String) :
    (Ends result).NamesIn names := by
  rintro attempts _ ⟨rfl, -⟩ attempt hattempt
  exact absurd hattempt List.not_mem_nil

theorem namesIn_calls (connection : Connection) {call : Call α} {names : List String}
    (h : call.name ∈ names) : (Calls connection call).NamesIn names := by
  rintro attempts _ ⟨delivery, rfl, -⟩ attempt hattempt
  rw [List.mem_singleton.1 hattempt]
  exact h

theorem namesIn_then {first : Protocol α} {next : α → Protocol β} {names more : List String}
    (h : first.NamesIn names) (hnext : ∀ a, (next a).NamesIn more) :
    (first.Then next).NamesIn (names ++ more) := by
  intro attempts result hthen attempt hattempt
  cases hthen with
  | stopped hfirst => exact List.mem_append_left _ (h hfirst attempt hattempt)
  | continued hfirst hmore =>
    rcases List.mem_append.1 hattempt with hmem | hmem
    · exact List.mem_append_left _ (h hfirst attempt hmem)
    · exact List.mem_append_right _ (hnext _ hmore attempt hmem)

theorem namesIn_after {next : α → Protocol β} {names : List String}
    (hnext : ∀ a, (next a).NamesIn names) (first : Except ClientError α) :
    (After first next).NamesIn names := by
  cases first with
  | error error => exact namesIn_ends _ names
  | ok a => exact hnext a

theorem stopsAt_ends (connection : Connection) (counts : ClientError → Prop)
    (result : Except ClientError α) : (Ends result).StopsAt connection counts := by
  rintro attempts _ ⟨rfl, -⟩ before attempt after error hsplit
  exact absurd hsplit (by simp)

theorem stopsAt_calls (connection : Connection) (counts : ClientError → Prop) (call : Call α) :
    (Calls connection call).StopsAt connection counts := by
  rintro attempts _ ⟨delivery, rfl, rfl⟩ before attempt after error hsplit hanswer -
  obtain ⟨rfl, rfl, rfl⟩ : before = [] ∧ attempt = ⟨call, delivery⟩ ∧ after = [] := by
    simpa [List.singleton_eq_append_iff] using hsplit
  exact ⟨rfl, hanswer⟩

theorem stopsAt_then {connection : Connection} {counts : ClientError → Prop}
    {first : Protocol α} {next : α → Protocol β} (h : first.StopsAt connection counts)
    (hnext : ∀ a, (next a).StopsAt connection counts) :
    (first.Then next).StopsAt connection counts := by
  intro attempts result hthen before attempt after error hsplit hanswer hcounts
  cases hthen with
  | stopped hfirst =>
    obtain ⟨hlast, herror⟩ := h hfirst hsplit hanswer hcounts
    rw [Except.error.injEq] at herror
    exact ⟨hlast, herror ▸ rfl⟩
  | continued hfirst hmore =>
    rcases List.append_eq_append_iff.1 hsplit with ⟨middle, rfl, hmiddle⟩ |
      ⟨middle, hmiddle, hafter⟩
    · exact hnext _ hmore hmiddle hanswer hcounts
    · cases middle with
      | nil =>
        have hsplit' : _ = [] ++ attempt :: after := hafter.symm
        exact hnext _ hmore hsplit' hanswer hcounts
      | cons head tail =>
        -- the first part would have ended with the error
        rw [List.cons_append, List.cons.injEq] at hafter
        obtain ⟨-, herror⟩ := h hfirst (hafter.1 ▸ hmiddle) hanswer hcounts
        exact absurd herror (by simp)

/-- A protocol that stops for want of a URL sends all its requests or none. -/
theorem sends_of_stopsAt {connection : Connection} {counts : ClientError → Prop}
    {protocol : Protocol α} (h : protocol.StopsAt connection counts)
    (hcounts : ∀ fault, counts (.http (.badUrl fault))) {attempts : List Attempt}
    {result : Except ClientError α} (hkept : protocol attempts result) :
    connection.Sends attempts result := by
  rcases connection.exchanged_cases with hwritten | hunwritten
  · exact .inl fun attempt _ => hwritten attempt
  · cases attempts with
    | nil => exact .inl fun attempt hattempt => absurd hattempt List.not_mem_nil
    | cons attempt after =>
      obtain ⟨hsilent, fault, hanswer⟩ := hunwritten attempt
      have hsplit : attempt :: after = [] ++ attempt :: after := rfl
      obtain ⟨rfl, hresult⟩ := h hkept hsplit hanswer (hcounts fault)
      exact .inr ⟨attempt, fault, rfl, hsilent, hresult⟩

theorem blames_ends (connection : Connection) {own : ClientError → Prop}
    {result : Except ClientError α} (h : ∀ error, result = .error error → own error) :
    (Ends result).Blames connection own := by
  rintro attempts error ⟨-, herror⟩
  exact .inl (h error herror.symm)

theorem blames_calls (connection : Connection) (own : ClientError → Prop) (call : Call α) :
    (Calls connection call).Blames connection own := by
  rintro attempts error ⟨delivery, rfl, herror⟩
  exact .inr ⟨[], _, rfl, herror.symm⟩

theorem blames_then {connection : Connection} {own : ClientError → Prop}
    {first : Protocol α} {next : α → Protocol β} (h : first.Blames connection own)
    (hnext : ∀ a, (next a).Blames connection own) : (first.Then next).Blames connection own := by
  intro attempts error hthen
  cases hthen with
  | stopped hfirst => exact h hfirst
  | continued hfirst hmore =>
    rcases hnext _ hmore with hown | ⟨before, attempt, rfl, hanswer⟩
    · exact .inl hown
    · exact .inr ⟨_, attempt, (List.append_assoc ..).symm, hanswer⟩

end Protocol

namespace Connection

variable {α β : Type}

/-- In every world, an action keeps to a protocol. -/
def KeepsTo (connection : Connection) (action : Action α) (protocol : Protocol α) : Prop :=
  ∀ (σ : Type) (world : World σ), ∃ attempts result world',
    connection.Conducts (ExceptT.run action) world attempts result world' ∧
      protocol attempts result

theorem keepsTo_pure (connection : Connection) (a : α) :
    connection.KeepsTo (pure a : Action α) (.Ends (.ok a)) :=
  fun _ world => ⟨[], .ok a, world, conducts_pure connection a world, rfl, rfl⟩

theorem keepsTo_throw (connection : Connection) (error : ClientError) :
    connection.KeepsTo (throw error : Action α) (.Ends (.error error)) :=
  fun _ world => ⟨[], .error error, world, ⟨rfl, rfl⟩, rfl, rfl⟩

theorem keepsTo_execute (connection : Connection) {call : Call α} (hcall : call.isAsync = false) :
    connection.KeepsTo (connection.execute call) (.Calls connection call) := by
  intro σ world
  obtain ⟨delivery, world', hconducts⟩ := exists_conducts_execute connection hcall world
  exact ⟨_, _, world', hconducts, delivery, rfl, rfl⟩

theorem keepsTo_bind {connection : Connection} {action : Action α} {f : α → Action β}
    {first : Protocol α} {next : α → Protocol β} (h : connection.KeepsTo action first)
    (hnext : ∀ a, connection.KeepsTo (f a) (next a)) :
    connection.KeepsTo (action >>= f) (first.Then next) := by
  intro σ world
  obtain ⟨attempts, result, world', hconducts, hfirst⟩ := h σ world
  cases result with
  | error error =>
    exact ⟨attempts, .error error, world', conducts_bind_error hconducts, .stopped hfirst⟩
  | ok a =>
    obtain ⟨more, result, world'', hmore, hkept⟩ := hnext a σ world'
    exact ⟨attempts ++ more, result, world'', conducts_bind_ok hconducts hmore,
      .continued hfirst hkept⟩

end Connection

end ControlPlane
