import ControlPlane.Proofs.SteadyReplies

/-!
# The course of a command

A server may answer a request in the same way whenever it is put, and it may take the same time for
it, too (`World.Follows`). A dialogue that does not depend on more than that has one course: which
requests it sends and with which value it ends (`Dialogue.Plays`). Run in such a world it takes that
course, and over a link that is up its requests are those that the server receives, one after
another (`Dialogue.receives_run`).

A command looks at the clock only to see how much time is left for its job. So its course does not
depend on when it is started. Nor does it depend on the time that replies take, unless the command
waits until its job is overdue (`Connection.exists_course_executeRaw`).
-/

namespace ControlPlane

/-! ## What a server receives -/

namespace World

variable {σ : Type} {world before middle after : World σ} {oracle : Request → Delivery × Duration}
  {timed : Bool}

/-- Requests end as an oracle says, and, where time matters, after the time that it says. -/
def Follows (world : World σ) (oracle : Request → Delivery × Duration) (timed : Bool) : Prop :=
  world.Gives fun request delivery span =>
    delivery = (oracle request).1 ∧ (timed = true → span = (oracle request).2)

/-- A world follows the answers of its server if these depend on the request only. -/
theorem follows_of_answers
    (h : ∀ url state, (world.server url state).1 = (world.server url world.state).1) :
    world.Follows (fun request => ((world.deliver request).1, (world.deliver request).2.1))
      true := by
  intro request state
  obtain ⟨hdelivery, hspan⟩ :=
    @deliver_eq_of_answer σ world σ { world with state } request rfl (h request.url state)
  exact ⟨hdelivery, fun _ => hspan⟩

theorem Steady.follows {reply : Request → Delivery} (h : world.Steady reply) :
    world.Follows (fun request => (reply request, .zero)) false :=
  fun request state => ⟨h request state, fun htimed => absurd htimed (by simp)⟩

theorem Follows.steady (h : world.Follows oracle timed) :
    world.Steady fun request => (oracle request).1 :=
  fun request state => (h request state).1

/-- If an instant is known, the clock shows it. -/
def Shows (world : World σ) (now? : Option Instant) : Prop := ∀ now ∈ now?, world.clock = now

theorem Shows.later {now? : Option Instant} (h : world.Shows now?) (span : Duration) :
    (world.after span).Shows (now?.map (·.later span)) := by
  intro known hknown
  obtain ⟨now, hnow, rfl⟩ := Option.map_eq_some_iff.1 hknown
  exact congrArg (Instant.later · span) (h now hnow)

/-- A clock that shows what is known of the time does so after a request. -/
theorem Shows.afterRequest {now? : Option Instant} (h : world.Shows now?)
    (hfollows : world.Follows oracle now?.isSome) (request : Request) :
    (world.afterRequest request).Shows (now?.map (·.later (oracle request).2)) := by
  cases now? with
  | none => exact fun _ hnone => absurd hnone (by simp)
  | some now =>
    rw [← (hfollows.deliver request).2 rfl]
    refine Shows.later (fun known hknown => ?_) _
    rw [World.clock_deliver]
    exact h known hknown

/-- Between two worlds the server receives requests for these targets, the first first. -/
def Receives (before after : World σ) (targets : List String) : Prop :=
  after.arrivals.map Arrival.target = targets.reverse ++ before.arrivals.map Arrival.target

/-- The targets of the requests that get through a link. -/
def reached : Link → List Request → List String
  | .up, requests => requests.map fun request => request.url.target
  | .down, _ => []

theorem reached_nil (link : Link) : reached link [] = [] := by
  cases link <;> rfl

theorem reached_append (link : Link) (requests more : List Request) :
    reached link (requests ++ more) = reached link requests ++ reached link more := by
  cases link with
  | up => exact List.map_append
  | down => rfl

theorem receives_nothing (link : Link) (world : World σ) :
    world.Receives world (reached link []) := by
  rw [reached_nil]
  rfl

theorem Receives.trans {targets more : List String} (h : before.Receives middle targets)
    (hmore : middle.Receives after more) : before.Receives after (targets ++ more) := by
  rw [Receives] at h hmore ⊢
  rw [hmore, h, List.reverse_append, List.append_assoc]

/-- A request is received at once if it gets through. -/
theorem receives_deliver (request : Request) (world : World σ) :
    (world.deliver request).2.2.link = world.link ∧
      world.Receives (world.deliver request).2.2 (reached world.link [request]) := by
  unfold Receives deliver
  cases hlink : world.link with
  | down => exact ⟨hlink, rfl⟩
  | up =>
    simp only
    split
    · exact ⟨rfl, rfl⟩
    · split
      · exact ⟨rfl, rfl⟩
      · exact ⟨rfl, rfl⟩

end World

/-- Of an instant, just what matters can be known. -/
theorem Instant.exists_known (timed : Bool) (now : Instant) :
    ∃ now? : Option Instant, now?.isSome = timed ∧ ∀ known ∈ now?, known = now := by
  cases timed with
  | false => exact ⟨none, rfl, by simp⟩
  | true => exact ⟨some now, rfl, by simp⟩

/-! ## Courses of dialogues -/

namespace Dialogue

variable {α β σ : Type} {oracle : Request → Delivery × Duration}

/-- If requests end as an oracle says, a dialogue sends these and ends with a value that has a
property, or it breaks off on the way. The time at which it is begun may be known; if it is not, the
dialogue does so whatever the clock shows. -/
inductive Plays (oracle : Request → Delivery × Duration) (P : Option Instant → α → Prop) :
    Option Instant → Dialogue α → List Request → Prop
  | done {now? : Option Instant} {a : α} (h : P now? a) : Plays oracle P now? (.done a) []
  | broken {now? : Option Instant} {requests : List Request} :
    Plays oracle P now? .broken requests
  | send {now? : Option Instant} {request : Request} {next : Delivery → Dialogue α}
    {requests : List Request} (h : Plays oracle P (now?.map (·.later (oracle request).2))
      (next (oracle request).1) requests) :
    Plays oracle P now? (.send request next) (request :: requests)
  | readClock {now? : Option Instant} {next : Instant → Dialogue α} {requests : List Request}
    (h : ∀ now, (∀ known ∈ now?, now = known) → Plays oracle P now? (next now) requests) :
    Plays oracle P now? (.readClock next) requests
  | wait {now? : Option Instant} {span : Duration} {next : Dialogue α} {requests : List Request}
    (h : Plays oracle P (now?.map (·.later span)) next requests) :
    Plays oracle P now? (.wait span next) requests
  | draw {now? : Option Instant} {next : Fin 62 → Dialogue α} {requests : List Request}
    (h : ∀ letter, Plays oracle P now? (next letter) requests) :
    Plays oracle P now? (.draw next) requests

theorem plays_bind {P : Option Instant → α → Prop} {Q : Option Instant → β → Prop} {d : Dialogue α}
    {f : α → Dialogue β} {now? : Option Instant} {requests more : List Request}
    (h : d.Plays oracle P now? requests)
    (hf : ∀ stop? a, P stop? a → (f a).Plays oracle Q stop? more) :
    (d.bind f).Plays oracle Q now? (requests ++ more) := by
  induction h with
  | done ha => exact hf _ _ ha
  | broken => exact .broken
  | send _ ih => exact .send ih
  | readClock _ ih => exact .readClock ih
  | wait _ ih => exact .wait ih
  | draw _ ih => exact .draw ih

/-- Run in a world that follows the oracle, a dialogue that does not break off takes its course: the
server receives its requests. -/
theorem receives_run {P : Option Instant → α → Prop} {d : Dialogue α} {world world' : World σ}
    {now? : Option Instant} {requests : List Request} (h : d.Plays oracle P now? requests)
    (hshows : world.Shows now?) (hfollows : world.Follows oracle now?.isSome) {a : α}
    (hrun : d.run world = (some a, world')) :
    world.Receives world' (World.reached world.link requests) := by
  induction h generalizing world with
  | done =>
    obtain rfl : world = world' := congrArg Prod.snd hrun
    exact World.receives_nothing _ _
  | broken => exact absurd hrun (by simp [run])
  | @send now? request next requests _ ih =>
    obtain ⟨hlink, hreceives⟩ := world.receives_deliver request
    rw [← (hfollows.deliver request).1, Option.isSome_map] at ih
    have hrest := @ih (world.afterRequest request) (hshows.afterRequest hfollows request)
      ((hfollows.after_deliver request).congr rfl rfl) hrun
    rw [show (world.afterRequest request).link = world.link from hlink] at hrest
    have hall : world.Receives world' _ := World.Receives.trans hreceives hrest
    rwa [← World.reached_append] at hall
  | readClock _ ih => exact ih world.clock hshows hshows hfollows hrun
  | @wait now? span next requests _ ih =>
    rw [Option.isSome_map] at ih
    exact @ih (world.after span) (hshows.later span) (hfollows.congr rfl rfl) hrun
  | draw _ ih => exact @ih _ world.drawOne.2 hshows (hfollows.congr rfl rfl) hrun

/-- A dialogue takes its course when it is begun at an instant, where time matters, and at any time
where it does not. -/
def PlaysFrom (oracle : Request → Delivery × Duration) (timed : Bool) (now : Instant)
    (d : Dialogue α) (requests : List Request) : Prop :=
  ∃ now?, now?.isSome = timed ∧ (∀ known ∈ now?, known = now) ∧
    ∃ P, d.Plays oracle P now? requests

/-- What is left of the course of a dialogue that was let go on. -/
def Progress.Plays (oracle : Request → Delivery × Duration) (timed : Bool)
    (requests : List Request) : Progress α → Prop
  | .ended (some _) => requests = []
  | .ended none => True
  | .sleeping wake rest => rest.PlaysFrom oracle timed wake requests

/-- A dialogue that goes on sends the first requests of its course, and the others are left. -/
theorem plays_advance {P : Option Instant → α → Prop} {d : Dialogue α} {world : World σ}
    {now? : Option Instant} {requests : List Request} (h : d.Plays oracle P now? requests)
    (hshows : world.Shows now?) (hfollows : world.Follows oracle now?.isSome) :
    (d.advance world).2.link = world.link ∧ ∃ sent rest, requests = sent ++ rest ∧
      world.Receives (d.advance world).2 (World.reached world.link sent) ∧
      (d.advance world).1.Plays oracle now?.isSome rest := by
  induction h generalizing world with
  | done => exact ⟨rfl, [], [], rfl, World.receives_nothing _ _, rfl⟩
  | @broken now? requests =>
    exact ⟨rfl, [], requests, rfl, World.receives_nothing _ _, trivial⟩
  | @send now? request next requests h _ =>
    obtain ⟨hlink, hreceives⟩ := world.receives_deliver request
    have hshows' := hshows.afterRequest hfollows request
    rw [← (hfollows.deliver request).1] at h
    refine ⟨hlink, [request], requests, rfl, hreceives, _, Option.isSome_map, ?_, P, h⟩
    intro known hknown
    exact (hshows' known hknown).symm
  | readClock _ ih => exact ih world.clock hshows hshows hfollows
  | @wait now? span next requests h _ =>
    refine ⟨rfl, [], requests, rfl, World.receives_nothing _ _, _, Option.isSome_map, ?_, P, h⟩
    intro known hknown
    exact (hshows.later span known hknown).symm
  | draw _ ih => exact @ih _ world.drawOne.2 hshows (hfollows.congr rfl rfl)

end Dialogue

/-! ## Courses of actions -/

namespace Action

variable {α β : Type} {oracle : Request → Delivery × Duration} {timed : Bool} {action : Action α}
  {f : α → Action β} {now? middle? : Option Instant} {requests more : List Request}
  {Q : Option Instant → Except ClientError β → Prop}

/-- The end of an action: this result, at this time if the time is known. -/
def Ending (result : Except ClientError α) (stop? : Option Instant) :
    Option Instant → Except ClientError α → Prop :=
  fun own? own => own = result ∧ own? = stop?

theorem plays_bind_ok {a : α}
    (h : (ExceptT.run action).Plays oracle (Ending (.ok a) middle?) now? requests)
    (hf : (ExceptT.run (f a)).Plays oracle Q middle? more) :
    (ExceptT.run (action >>= f)).Plays oracle Q now? (requests ++ more) := by
  refine Dialogue.plays_bind h ?_
  rintro _ _ ⟨rfl, rfl⟩
  exact hf

/-- After an error nothing follows. -/
theorem plays_bind_error {error : ClientError}
    (h : (ExceptT.run action).Plays oracle (Ending (.error error) middle?) now? requests)
    (hQ : Q middle? (.error error)) :
    (ExceptT.run (action >>= f)).Plays oracle Q now? requests := by
  rw [← List.append_nil requests]
  refine Dialogue.plays_bind h ?_
  rintro _ _ ⟨rfl, rfl⟩
  exact .done hQ

/-- What is made of a result without saying anything belongs to the course. -/
theorem plays_bind_silent {a : α}
    (h : (ExceptT.run action).Plays oracle (Ending (.ok a) middle?) now? requests)
    (hf : (ExceptT.run (f a)).Plays oracle Q middle? []) :
    (ExceptT.run (action >>= f)).Plays oracle Q now? requests := by
  rw [← List.append_nil requests]
  exact plays_bind_ok h hf

theorem plays_pause_bind {span : Duration} {f : Unit → Action β}
    (h : (ExceptT.run (f ())).Plays oracle Q (now?.map (·.later span)) requests) :
    (ExceptT.run (ofDialogue (Dialogue.pause span) >>= f)).Plays oracle Q now? requests :=
  .wait h

/-- If the instant cannot be represented, the action breaks off, and may have any course. -/
theorem plays_instantAfter_bind {span : Duration} {f : Instant → Action β}
    (h : ∀ now instant, (∀ known ∈ now?, now = known) → now.later? span = some instant →
      (ExceptT.run (f instant)).Plays oracle Q now? requests) :
    (ExceptT.run (instantAfter span >>= f)).Plays oracle Q now? requests := by
  have hset : (ExceptT.run (instantAfter span)).Plays oracle (fun stop? result => stop? = now? ∧
      ∃ now instant, result = .ok instant ∧ (∀ known ∈ now?, now = known) ∧
        now.later? span = some instant) now? [] := by
    refine .readClock fun now hnow => ?_
    cases hinstant : now.later? span with
    | none => exact .broken
    | some instant => exact .done ⟨rfl, now, instant, rfl, hnow, hinstant⟩
  rw [← List.nil_append requests]
  refine Dialogue.plays_bind hset ?_
  rintro _ _ ⟨rfl, now, instant, rfl, hnow, hinstant⟩
  exact h now instant hnow hinstant

/-- The course of an action, whenever it is started: its requests, its result and, where time
matters, the time from start to end. -/
def HasCourse (oracle : Request → Delivery × Duration) (timed : Bool) (action : Action α)
    (requests : List Request) (result : Except ClientError α) (span : Duration) : Prop :=
  ∀ now? : Option Instant, now?.isSome = timed →
    (ExceptT.run action).Plays oracle (Ending result (now?.map (·.later span))) now? requests

/-- Run in a world that follows the oracle, an action that does not break off has its requests
received. -/
theorem HasCourse.receives {σ : Type} {world world' : World σ} {result own : Except ClientError α}
    {span : Duration} (h : HasCourse oracle timed action requests result span)
    (hfollows : world.Follows oracle timed) (hrun : action.run world = (some own, world')) :
    world.Receives world' (World.reached world.link requests) := by
  obtain ⟨now?, rfl, hknown⟩ := Instant.exists_known timed world.clock
  have hshows : world.Shows now? := fun known hmem => (hknown known hmem).symm
  exact Dialogue.receives_run (h now? rfl) hshows hfollows hrun

end Action

theorem Instant.map_later_zero (now? : Option Instant) : now?.map (·.later .zero) = now? := by
  cases now? with
  | none => rfl
  | some now => rfl

/-- One span after another is their sum. -/
theorem Instant.map_later_later (now? : Option Instant) (span more : Duration) :
    (now?.map (·.later span)).map (·.later more) = now?.map (·.later (span.add more)) := by
  cases now? with
  | none => rfl
  | some now => exact congrArg (some ∘ Instant.mk) (Nat.add_assoc ..)

namespace Connection

open ControlPlane.Action

/-- A job goes on. -/
def IsPending (connection : Connection) (reply : Request → Delivery) (jobId : String) : Prop :=
  ∃ job, connection.jobOf reply jobId = .ok job ∧ job.status = .pending

/-- A command waits until its job is overdue. -/
def IsOverdue (connection : Connection) (reply : Request → Delivery) (command : Command) : Prop :=
  ∃ jobId, connection.outputOf reply command =
    .error (connection.jobOverdue command.name jobId)

section

variable (connection : Connection) (oracle : Request → Delivery × Duration) (timed : Bool)

theorem exists_course_send (command : Command) :
    ∃ requests span, HasCourse oracle timed (connection.send command) requests
      (connection.bodyOf (fun request => (oracle request).1) command) span := by
  cases hurl : Url.parse (connection.urlText command) with
  | error fault =>
    refine ⟨[], .zero, fun now? _ => ?_⟩
    rw [send, bodyOf, hurl]
    exact .done ⟨rfl, (Instant.map_later_zero now?).symm⟩
  | ok url =>
    let request : Request := ⟨url, connection.requestTimeout⟩
    refine ⟨[request], (oracle request).2, fun now? _ => ?_⟩
    rw [exceptRun_send hurl, bodyOf, hurl]
    exact .send (.done ⟨rfl, rfl⟩)

theorem exists_course_queryJob (jobId : String) :
    ∃ requests span, HasCourse oracle timed (connection.queryJob jobId) requests
      (connection.jobOf (fun request => (oracle request).1) jobId) span := by
  obtain ⟨requests, span, hsend⟩ :=
    connection.exists_course_send oracle timed (Call.jobResult jobId).toCommand
  refine ⟨requests, span, fun now? htimed => ?_⟩
  have hsent := hsend now? htimed
  rw [jobOf]
  revert hsent
  cases connection.bodyOf (fun request => (oracle request).1) (Call.jobResult jobId).toCommand with
  | error error => exact fun hsent => plays_bind_error hsent ⟨rfl, rfl⟩
  | ok body => exact fun hsent => plays_bind_silent hsent (.done ⟨rfl, rfl⟩)

end

variable {connection : Connection} {oracle : Request → Delivery × Duration} {timed : Bool}

section Pending

variable {name jobId : String} {limit : Nat} {now deadline : Instant} {asked : List Request}
  {job : Job} {taken : Duration}

/-- If there is no time for another question, the job is overdue. -/
theorem plays_pollUntil_late
    (hquery : HasCourse oracle true (connection.queryJob jobId) asked (.ok job) taken)
    (hstatus : job.status = .pending)
    (hlate : deadline < (now.later taken).later connection.pollInterval) :
    (ExceptT.run (connection.pollUntil name jobId deadline (limit + 1))).Plays oracle
      (Ending (.error (connection.jobOverdue name jobId)) (some (now.later taken))) (some now)
      asked := by
  refine plays_bind_silent (hquery (some now) rfl) ?_
  simp only [hstatus]
  refine plays_instantAfter_bind fun answered next hanswered hnext => ?_
  rw [← Instant.later_of_later? hnext, hanswered _ rfl, if_pos hlate]
  exact .done ⟨rfl, rfl⟩

/-- If there is time for another question, it is put after a pause. -/
theorem plays_pollUntil_again {more : List Request}
    {Q : Option Instant → Except ClientError Job → Prop}
    (hquery : HasCourse oracle true (connection.queryJob jobId) asked (.ok job) taken)
    (hstatus : job.status = .pending)
    (hearly : ¬ deadline < (now.later taken).later connection.pollInterval)
    (hmore : (ExceptT.run (connection.pollUntil name jobId deadline limit)).Plays oracle Q
      (some ((now.later taken).later connection.spacing)) more) :
    (ExceptT.run (connection.pollUntil name jobId deadline (limit + 1))).Plays oracle Q (some now)
      (asked ++ more) := by
  refine plays_bind_ok (hquery (some now) rfl) ?_
  simp only [hstatus]
  refine plays_instantAfter_bind fun answered next hanswered hnext => ?_
  rw [← Instant.later_of_later? hnext, hanswered _ rfl, if_neg hearly]
  exact plays_pause_bind hmore

end Pending

/-- How a job is asked about depends on the time that is left, and not on the time of day. A job
that does not go on is asked about only once. -/
theorem exists_course_pollUntil (name jobId : String) (limit : Nat) (left : Int)
    (hgoes : timed = true ∨ ¬ connection.IsPending (fun request => (oracle request).1) jobId) :
    ∃ requests result span, ∀ now? deadline, now?.isSome = timed →
      (∀ now ∈ now?, (deadline.nanoseconds : Int) = now.nanoseconds + left) →
        (ExceptT.run (connection.pollUntil name jobId deadline limit)).Plays oracle
          (Ending result (now?.map (·.later span))) now? requests := by
  -- by induction on the questions that may be put; each takes its share of the time that is left
  induction limit generalizing left with
  | zero =>
    exact ⟨[], _, .zero, fun now? _ _ _ => .done ⟨rfl, (Instant.map_later_zero now?).symm⟩⟩
  | succ limit ih =>
    obtain ⟨asked, taken, hquery⟩ := connection.exists_course_queryJob oracle timed jobId
    cases hanswer : connection.jobOf (fun request => (oracle request).1) jobId with
    | error error =>
      rw [hanswer] at hquery
      exact ⟨asked, _, taken, fun now? _ htimed _ =>
        plays_bind_error (hquery now? htimed) ⟨rfl, rfl⟩⟩
    | ok job =>
      rw [hanswer] at hquery
      cases hstatus : job.status with
      | succeeded =>
        refine ⟨asked, .ok job, taken, fun now? _ htimed _ =>
          plays_bind_silent (hquery now? htimed) ?_⟩
        simp only [hstatus]
        exact .done ⟨rfl, rfl⟩
      | failed =>
        refine ⟨asked, .error (jobFailure jobId job), taken, fun now? _ htimed _ =>
          plays_bind_silent (hquery now? htimed) ?_⟩
        simp only [hstatus]
        exact .done ⟨rfl, rfl⟩
      | pending =>
        obtain rfl := hgoes.resolve_right fun hnot => hnot ⟨job, hanswer, hstatus⟩
        by_cases hlate : left < taken.nanoseconds + connection.pollInterval.nanoseconds
        · refine ⟨asked, .error (connection.jobOverdue name jobId), taken,
            fun now? deadline htimed hleft => ?_⟩
          obtain ⟨now, rfl⟩ := Option.isSome_iff_exists.1 htimed
          have hleft := hleft now rfl
          refine plays_pollUntil_late hquery hstatus ?_
          show deadline.nanoseconds <
            now.nanoseconds + taken.nanoseconds + connection.pollInterval.nanoseconds
          omega
        · obtain ⟨more, result, span, hmore⟩ :=
            ih (left - taken.nanoseconds - connection.spacing.nanoseconds)
          refine ⟨asked ++ more, result, (taken.add connection.spacing).add span,
            fun now? deadline htimed hleft => ?_⟩
          obtain ⟨now, rfl⟩ := Option.isSome_iff_exists.1 htimed
          have hleft := hleft now rfl
          rw [← Instant.map_later_later, ← Instant.map_later_later]
          refine plays_pollUntil_again hquery hstatus ?_ (hmore _ deadline rfl ?_)
          · show ¬ deadline.nanoseconds <
              now.nanoseconds + taken.nanoseconds + connection.pollInterval.nanoseconds
            omega
          · rintro _ ⟨⟩
            show (deadline.nanoseconds : Int) = (now.nanoseconds + taken.nanoseconds +
              connection.spacing.nanoseconds : Nat) +
                (left - taken.nanoseconds - connection.spacing.nanoseconds)
            omega

theorem exists_course_waitForJob (name jobId : String)
    (hgoes : timed = true ∨ ¬ connection.IsPending (fun request => (oracle request).1) jobId) :
    ∃ requests result span,
      HasCourse oracle timed (connection.waitForJob name jobId) requests result span := by
  obtain ⟨requests, result, span, hpoll⟩ := exists_course_pollUntil name jobId
    connection.questionLimit connection.asyncTimeout.nanoseconds hgoes
  refine ⟨requests, result, span, fun now? htimed => ?_⟩
  refine plays_instantAfter_bind fun now deadline hnow hdeadline => hpoll now? deadline htimed ?_
  intro known hknown
  rw [← Instant.later_of_later? hdeadline, hnow known hknown]
  exact Int.natCast_add _ _

/-- Whenever a command is started, it is the same requests, the same result and, where time matters,
the same span. Where time does not matter, the command must not wait until it is overdue. -/
theorem exists_course_executeRaw (command : Command)
    (h : timed = true ∨ ¬ connection.IsOverdue (fun request => (oracle request).1) command) :
    ∃ requests result span,
      HasCourse oracle timed (connection.executeRaw command) requests result span := by
  obtain ⟨sent, taken, hsend⟩ := connection.exists_course_send oracle timed command
  cases hbody : connection.bodyOf (fun request => (oracle request).1) command with
  | error error =>
    rw [hbody] at hsend
    exact ⟨sent, _, taken, fun now? htimed => plays_bind_error (hsend now? htimed) ⟨rfl, rfl⟩⟩
  | ok body =>
    rw [hbody] at hsend
    cases hasync : command.isAsync with
    | false =>
      refine ⟨sent, .ok ⟨none, body⟩, taken, fun now? htimed =>
        plays_bind_silent (hsend now? htimed) ?_⟩
      simp only [hasync]
      exact .done ⟨rfl, rfl⟩
    | true =>
      cases hjob : startedJob? body with
      | none =>
        refine ⟨sent, .error (.invalidResponse (command.name ++ " is async but returned no jobid")),
          taken, fun now? htimed => plays_bind_silent (hsend now? htimed) ?_⟩
        simp only [hasync, hjob]
        exact .done ⟨rfl, rfl⟩
      | some jobId =>
        have hgoes : timed = true ∨
            ¬ connection.IsPending (fun request => (oracle request).1) jobId := by
          refine h.imp_right fun hnot ⟨job, hanswer, hstatus⟩ => hnot ⟨jobId, ?_⟩
          simp [outputOf, hbody, hasync, hjob, hanswer, verdict, hstatus, Except.map]
        obtain ⟨asked, answer, waited, hwait⟩ := exists_course_waitForJob command.name jobId hgoes
        cases answer with
        | error error =>
          refine ⟨sent ++ asked, .error error, taken.add waited, fun now? htimed =>
            plays_bind_ok (hsend now? htimed) ?_⟩
          simp only [hasync, hjob, ← Instant.map_later_later]
          exact plays_bind_error (hwait _ (by rwa [Option.isSome_map])) ⟨rfl, rfl⟩
        | ok job =>
          refine ⟨sent ++ asked, .ok ⟨some jobId, job.result.getD (.obj [])⟩, taken.add waited,
            fun now? htimed => plays_bind_ok (hsend now? htimed) ?_⟩
          simp only [hasync, hjob, ← Instant.map_later_later]
          exact plays_bind_silent (hwait _ (by rwa [Option.isSome_map])) (.done ⟨rfl, rfl⟩)

end Connection

end ControlPlane
