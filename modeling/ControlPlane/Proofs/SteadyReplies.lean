import ControlPlane.Batch.Stage
import ControlPlane.Client
import ControlPlane.Proofs.JobPolling

/-!
# Replies that depend on the request only

A server may answer a request in the same way whenever it is put, though not always in the same
time. Then what a command comes to does not depend on time either: it is settled by the reply to the
command and, if that starts a job, by the reply to the question about the job. While the job goes on
the reply stays the same, and however often the question is put, the job is overdue in the end.

`Dialogue.Settles` says that of a dialogue; it goes along the recursion of the dialogue, with the
clock left open up to a horizon. What a command comes to is `Connection.outputOf`, a function of the
replies, unless the deadline of its job cannot be represented (`Connection.settles_executeRaw`).
-/

namespace ControlPlane

/-! ## Worlds and their answers -/

namespace World

variable {σ : Type} {answers : Request → Delivery → Duration → Prop} {world world' : World σ}

/-- How requests end and how long that takes, whatever the state of the server. -/
def Gives (world : World σ) (answers : Request → Delivery → Duration → Prop) : Prop :=
  ∀ request state, answers request ({ world with state }.deliver request).1
    ({ world with state }.deliver request).2.1

/-- Requests end in the same way whenever they are put. -/
def Steady (world : World σ) (reply : Request → Delivery) : Prop :=
  world.Gives fun request delivery _ => delivery = reply request

/-- What becomes of a request depends on the link and on the server's answer alone. -/
theorem deliver_eq_of_answer {τ : Type} {other : World τ} {request : Request}
    (hlink : other.link = world.link)
    (hanswer : (other.server request.url other.state).1 =
      (world.server request.url world.state).1) :
    (other.deliver request).1 = (world.deliver request).1 ∧
      (other.deliver request).2.1 = (world.deliver request).2.1 := by
  unfold deliver
  rw [hlink]
  cases world.link with
  | down => exact ⟨rfl, rfl⟩
  | up =>
    generalize world.server request.url world.state = answered at hanswer ⊢
    generalize other.server request.url other.state = answered' at hanswer ⊢
    obtain ⟨answer, state⟩ := answered
    obtain ⟨answer', state'⟩ := answered'
    obtain rfl : answer' = answer := hanswer
    simp only
    split
    · exact ⟨rfl, rfl⟩
    · split <;> exact ⟨rfl, rfl⟩

theorem deliver_congr (hlink : world'.link = world.link) (hserver : world'.server = world.server)
    (hstate : world'.state = world.state) (request : Request) :
    (world'.deliver request).1 = (world.deliver request).1 ∧
      (world'.deliver request).2.1 = (world.deliver request).2.1 :=
  deliver_eq_of_answer hlink (by rw [hserver, hstate])

theorem Gives.congr (h : world.Gives answers) (hlink : world'.link = world.link)
    (hserver : world'.server = world.server) : world'.Gives answers := by
  intro request state
  obtain ⟨hdelivery, hspan⟩ :=
    @deliver_congr _ { world with state } { world' with state } hlink hserver rfl request
  rw [hdelivery, hspan]
  exact h request state

theorem Gives.deliver (h : world.Gives answers) (request : Request) :
    answers request (world.deliver request).1 (world.deliver request).2.1 :=
  h request world.state

theorem Gives.after_deliver (h : world.Gives answers) (request : Request) :
    (world.deliver request).2.2.Gives answers := by
  obtain ⟨hlink, hserver⟩ : (world.deliver request).2.2.link = world.link ∧
      (world.deliver request).2.2.server = world.server := by
    unfold World.deliver
    split
    · exact ⟨rfl, rfl⟩
    · simp only
      split
      · exact ⟨rfl, rfl⟩
      · split <;> exact ⟨rfl, rfl⟩
  exact h.congr hlink hserver

end World

theorem Dialogue.gives_advance {α σ : Type} {answers : Request → Delivery → Duration → Prop}
    (d : Dialogue α) {world : World σ} (h : world.Gives answers) :
    (d.advance world).2.Gives answers := by
  induction d generalizing world with
  | done a => exact h
  | broken => exact h
  | send request next ih => exact h.after_deliver request
  | readClock next ih => exact ih _ h
  | wait span next ih => exact h
  | draw next ih => exact @ih _ world.drawOne.2 (h.congr rfl rfl)

/-! ## Settled dialogues -/

namespace Dialogue

variable {α β σ : Type} {reply : Request → Delivery} {horizon : Instant} {lapse : Prop}

/-- The value of a dialogue has a property, if requests end as they are replied to and the clock
does not go beyond a horizon. The dialogue breaks off only by a lapse. -/
inductive Settles (reply : Request → Delivery) (horizon : Instant) (lapse : Prop) (P : α → Prop) :
    Dialogue α → Prop
  | done {a : α} (h : P a) : Settles reply horizon lapse P (.done a)
  | broken (h : lapse) : Settles reply horizon lapse P .broken
  | send {request : Request} {next : Delivery → Dialogue α}
    (h : Settles reply horizon lapse P (next (reply request))) :
    Settles reply horizon lapse P (.send request next)
  | readClock {next : Instant → Dialogue α}
    (h : ∀ now ≤ horizon, Settles reply horizon lapse P (next now)) :
    Settles reply horizon lapse P (.readClock next)
  | wait {span : Duration} {next : Dialogue α} (h : Settles reply horizon lapse P next) :
    Settles reply horizon lapse P (.wait span next)
  | draw {next : Fin 62 → Dialogue α}
    (h : ∀ letter, Settles reply horizon lapse P (next letter)) :
    Settles reply horizon lapse P (.draw next)

theorem settles_bind {P : α → Prop} {Q : β → Prop} {d : Dialogue α} {f : α → Dialogue β}
    (h : d.Settles reply horizon lapse P)
    (hf : ∀ a, P a → (f a).Settles reply horizon lapse Q) :
    (d.bind f).Settles reply horizon lapse Q := by
  induction h with
  | done ha => exact hf _ ha
  | broken h => exact .broken h
  | send _ ih => exact .send ih
  | readClock _ ih => exact .readClock ih
  | wait _ ih => exact .wait ih
  | draw _ ih => exact .draw ih

/-- What is made of the result of an action settles if it does for every result that the action
settles on. -/
theorem settles_action_bind {action : Action α} {f : α → Action β}
    {P : Except ClientError α → Prop} {Q : Except ClientError β → Prop}
    (h : (ExceptT.run action).Settles reply horizon lapse P)
    (hok : ∀ a, P (.ok a) → (ExceptT.run (f a)).Settles reply horizon lapse Q)
    (herror : ∀ error, P (.error error) → Q (.error error)) :
    (ExceptT.run (action >>= f)).Settles reply horizon lapse Q := by
  have hbind : ExceptT.run (action >>= f) =
      (ExceptT.run action).bind fun result => ExceptT.bindCont f result := rfl
  rw [hbind]
  refine settles_bind h ?_
  intro result hresult
  cases result with
  | ok a => exact hok a hresult
  | error error => exact .done (herror error hresult)

theorem settles_instantAfter_bind {span : Duration} {f : Instant → Action α}
    {P : Except ClientError α → Prop} (hlapse : ∀ now ≤ horizon, now.later? span = none → lapse)
    (h : ∀ instant, (ExceptT.run (f instant)).Settles reply horizon lapse P) :
    (ExceptT.run (Action.instantAfter span >>= f)).Settles reply horizon lapse P := by
  rw [Action.exceptRun_instantAfter_bind]
  refine .readClock fun now hnow => ?_
  cases hinstant : now.later? span with
  | none => exact .broken (hlapse now hnow hinstant)
  | some instant => exact h instant

theorem settles_pause_bind {span : Duration} {f : Unit → Action α}
    {P : Except ClientError α → Prop}
    (h : (ExceptT.run (f ())).Settles reply horizon lapse P) :
    (ExceptT.run (Action.ofDialogue (pause span) >>= f)).Settles reply horizon lapse P :=
  .wait h

/-- Run in a steady world up to the horizon, a dialogue ends with a value that it settles on, or
breaks off by a lapse. -/
theorem run_of_settles {P : α → Prop} {d : Dialogue α} (h : d.Settles reply horizon lapse P)
    {world : World σ} (hsteady : world.Steady reply)
    (hhorizon : (d.run world).2.clock ≤ horizon) :
    (∀ a, (d.run world).1 = some a → P a) ∧ ((d.run world).1 = none → lapse) := by
  induction h generalizing world with
  | done ha => exact ⟨fun _ hb => Option.some.inj hb ▸ ha, fun hnone => absurd hnone (by simp)⟩
  | broken h => exact ⟨fun _ hb => absurd hb (by simp [run]), fun _ => h⟩
  | @send request next _ ih =>
    rw [← hsteady.deliver request] at ih
    exact ih ((hsteady.after_deliver request).congr rfl rfl) hhorizon
  | @readClock next _ ih =>
    have hnow := Instant.le_trans (clock_le_run (.readClock next) world) hhorizon
    exact ih _ hnow hsteady hhorizon
  | @wait span next _ ih => exact @ih (world.after span) (hsteady.congr rfl rfl) hhorizon
  | draw _ ih => exact @ih _ world.drawOne.2 (hsteady.congr rfl rfl) hhorizon

/-- Run in a steady world, an action ends with the result that it settles on, or breaks off by a
lapse. -/
theorem action_run_of_settles {action : Action α} {result : Except ClientError α}
    (h : (ExceptT.run action).Settles reply horizon lapse (· = result)) {world world' : World σ}
    {value? : Option (Except ClientError α)} (hsteady : world.Steady reply)
    (hrun : action.run world = (value?, world')) (hhorizon : world'.clock ≤ horizon) :
    (∀ value, value? = some value → value = result) ∧ (¬ lapse → value? = some result) := by
  rw [Action.run] at hrun
  obtain ⟨hvalue, hlapse⟩ := run_of_settles h hsteady (by rw [hrun]; exact hhorizon)
  rw [hrun] at hvalue hlapse
  refine ⟨hvalue, ?_⟩
  intro hnot
  cases value? with
  | some value => exact congrArg some (hvalue value rfl)
  | none => exact absurd (hlapse rfl) hnot

/-- What a dialogue that goes on comes to is settled if the dialogue was. -/
def Progress.Settles (reply : Request → Delivery) (horizon : Instant) (lapse : Prop)
    (P : α → Prop) : Progress α → Prop
  | .ended (some a) => P a
  | .ended none => lapse
  | .sleeping _ rest => rest.Settles reply horizon lapse P

theorem settles_advance {P : α → Prop} {d : Dialogue α} (h : d.Settles reply horizon lapse P)
    {world : World σ} (hsteady : world.Steady reply) (hclock : world.clock ≤ horizon) :
    (d.advance world).1.Settles reply horizon lapse P := by
  induction h generalizing world with
  | done ha => exact ha
  | broken h => exact h
  | @send request next h _ =>
    rw [← hsteady.deliver request] at h
    exact h
  | readClock _ ih => exact ih _ hclock hsteady hclock
  | wait h _ => exact h
  | draw _ ih => exact @ih _ world.drawOne.2 (hsteady.congr rfl rfl) hclock

end Dialogue

/-! ## Settled commands -/

namespace Connection

variable {reply : Request → Delivery} {horizon : Instant} {lapse : Prop}

/-- Whether the deadline of a job that starts at an instant can be represented. -/
def HasTime (connection : Connection) (now : Instant) : Prop :=
  (now.later? connection.asyncTimeout).isSome

instance (connection : Connection) (now : Instant) : Decidable (connection.HasTime now) :=
  inferInstanceAs (Decidable ((now.later? connection.asyncTimeout).isSome = true))

theorem hasTime_of_le {connection : Connection} {now earlier : Instant}
    (h : connection.HasTime now) (hle : earlier ≤ now) : connection.HasTime earlier := by
  rw [HasTime, Instant.isSome_later?_iff] at h ⊢
  exact Instant.fits_of_le h (Nat.add_le_add_right hle _)

/-- Whether all that waiting for a job counts from an instant can be represented: the deadline of a
job that starts, and the next question about one that goes on. -/
structure KeepsTime (connection : Connection) (now : Instant) : Prop where
  deadline : connection.HasTime now
  question : (now.later? connection.pollInterval).isSome

instance (connection : Connection) (now : Instant) : Decidable (connection.KeepsTime now) :=
  decidable_of_iff
    (connection.HasTime now ∧ (now.later? connection.pollInterval).isSome = true)
    ⟨fun h => ⟨h.1, h.2⟩, fun h => ⟨h.deadline, h.question⟩⟩

theorem keepsTime_of_le {connection : Connection} {now earlier : Instant}
    (h : connection.KeepsTime now) (hle : earlier ≤ now) : connection.KeepsTime earlier := by
  refine ⟨hasTime_of_le h.deadline hle, ?_⟩
  have hfits := Instant.isSome_later?_iff.1 h.question
  exact Instant.isSome_later?_iff.2 (Instant.fits_of_le hfits (Nat.add_le_add_right hle _))

theorem not_keepsTime_of_deadline {connection : Connection} {now horizon : Instant}
    (hle : now ≤ horizon) (h : now.later? connection.asyncTimeout = none) :
    ¬ connection.KeepsTime horizon := by
  intro htime
  have hsome := (keepsTime_of_le htime hle).deadline
  rw [HasTime, h] at hsome
  exact absurd hsome (by simp)

theorem not_keepsTime_of_question {connection : Connection} {now horizon : Instant}
    (hle : now ≤ horizon) (h : now.later? connection.pollInterval = none) :
    ¬ connection.KeepsTime horizon := by
  intro htime
  have hsome := (keepsTime_of_le htime hle).question
  rw [h] at hsome
  exact absurd hsome (by simp)

/-- The body or the error that a reply makes of a command. -/
def bodyOf (connection : Connection) (reply : Request → Delivery) (command : Command) :
    Except ClientError Json :=
  match Url.parse (connection.urlText command) with
  | .error fault => .error (.http (.badUrl fault))
  | .ok url => receive command url (reply ⟨url, connection.requestTimeout⟩)

/-- What the reply to a question says of a job. -/
def jobOf (connection : Connection) (reply : Request → Delivery) (jobId : String) :
    Except ClientError Job := do
  let body ← connection.bodyOf reply (Call.jobResult jobId).toCommand
  decoded ((Call.jobResult jobId).decode body)

/-- What the replies make of a command and of its job. -/
def outputOf (connection : Connection) (reply : Request → Delivery) (command : Command) :
    Except ClientError CommandOutput :=
  match connection.bodyOf reply command with
  | .error error => .error error
  | .ok body =>
    if !command.isAsync then .ok ⟨none, body⟩
    else
      match startedJob? body with
      | none => .error (.invalidResponse (command.name ++ " is async but returned no jobid"))
      | some jobId =>
        (connection.verdict command.name jobId (connection.jobOf reply jobId)).map fun job =>
          ⟨some jobId, job.result.getD (.obj [])⟩

theorem settles_send (connection : Connection) (command : Command) :
    (ExceptT.run (connection.send command)).Settles reply horizon lapse
      (· = connection.bodyOf reply command) := by
  cases hurl : Url.parse (connection.urlText command) with
  | error fault =>
    rw [send, bodyOf, hurl]
    exact .done rfl
  | ok url =>
    rw [exceptRun_send hurl, bodyOf, hurl]
    exact .send (.done rfl)

theorem settles_queryJob (connection : Connection) (jobId : String) :
    (ExceptT.run (connection.queryJob jobId)).Settles reply horizon lapse
      (· = connection.jobOf reply jobId) := by
  refine Dialogue.settles_action_bind (connection.settles_send (Call.jobResult jobId).toCommand) ?_
    ?_
  · intro body hbody
    rw [jobOf, ← hbody]
    exact .done rfl
  · intro error herror
    rw [jobOf, ← herror]
    rfl

section Waiting

variable {connection : Connection} {command jobId : String} {answer : Except ClientError Job}
  {deadline : Instant} {limit : Nat}

/-- Asking about a job settles on the verdict on the answer if, while the job goes on, asking again
does. -/
theorem settles_pollUntil_succ
    (h : (ExceptT.run (connection.queryJob jobId)).Settles reply horizon
      (¬ connection.KeepsTime horizon) (· = answer))
    (hagain : ∀ job, answer = .ok job → job.status = .pending →
      (ExceptT.run (connection.pollUntil command jobId deadline limit)).Settles reply horizon
        (¬ connection.KeepsTime horizon) (· = connection.verdict command jobId answer)) :
    (ExceptT.run (connection.pollUntil command jobId deadline (limit + 1))).Settles reply horizon
      (¬ connection.KeepsTime horizon) (· = connection.verdict command jobId answer) := by
  refine Dialogue.settles_action_bind h ?_ ?_
  · rintro job rfl
    have hmore := hagain job rfl
    cases hstatus : job.status with
    | succeeded =>
      simp only [verdict, hstatus]
      exact .done rfl
    | failed =>
      simp only [verdict, hstatus]
      exact .done rfl
    | pending =>
      refine Dialogue.settles_instantAfter_bind (fun _ => not_keepsTime_of_question) fun next => ?_
      split
      · simp only [verdict, hstatus]
        exact .done rfl
      · exact Dialogue.settles_pause_bind (hmore hstatus)
  · rintro error rfl
    rfl

/-- Waiting for a job settles on the verdict on the answer, however many questions it takes. -/
theorem settles_pollUntil
    (h : (ExceptT.run (connection.queryJob jobId)).Settles reply horizon
      (¬ connection.KeepsTime horizon) (· = answer)) (deadline : Instant) (limit : Nat) :
    (ExceptT.run (connection.pollUntil command jobId deadline (limit + 1))).Settles reply horizon
      (¬ connection.KeepsTime horizon) (· = connection.verdict command jobId answer) := by
  induction limit with
  | zero =>
    refine settles_pollUntil_succ h ?_
    rintro job rfl hstatus
    simp only [verdict, hstatus]
    exact .done rfl
  | succ limit ih => exact settles_pollUntil_succ h fun _ _ _ => ih

theorem settles_waitForJob
    (h : (ExceptT.run (connection.queryJob jobId)).Settles reply horizon
      (¬ connection.KeepsTime horizon) (· = answer)) :
    (ExceptT.run (connection.waitForJob command jobId)).Settles reply horizon
      (¬ connection.KeepsTime horizon) (· = connection.verdict command jobId answer) :=
  Dialogue.settles_instantAfter_bind (fun _ => not_keepsTime_of_deadline)
    fun deadline => settles_pollUntil h deadline _

end Waiting

/-- What a command comes to is settled by the replies to its requests, if all that waiting for its
job counts can be represented. -/
theorem settles_executeRaw (connection : Connection) (reply : Request → Delivery)
    (command : Command) (horizon : Instant) :
    (ExceptT.run (connection.executeRaw command)).Settles reply horizon
      (¬ connection.KeepsTime horizon) (· = connection.outputOf reply command) := by
  refine Dialogue.settles_action_bind (connection.settles_send command) ?_ ?_
  · intro body hbody
    simp only [outputOf, ← hbody]
    cases command.isAsync with
    | false => exact .done rfl
    | true =>
      cases startedJob? body with
      | none => exact .done rfl
      | some jobId =>
        simp only [Bool.not_true, Bool.false_eq_true, if_false]
        refine Dialogue.settles_action_bind
          (settles_waitForJob (settles_queryJob connection jobId)) ?_ ?_
        · intro job hjob
          rw [← hjob]
          exact .done rfl
        · intro error herror
          rw [← herror]
          rfl
  · intro error herror
    simp only [outputOf, ← herror]

end Connection

end ControlPlane
