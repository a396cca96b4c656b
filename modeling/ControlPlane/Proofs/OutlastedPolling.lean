import ControlPlane.Proofs.LoneCommands
import ControlPlane.Proofs.ReceivedParameters
import ControlPlane.Session

/-!
# Batches of a session and their jobs

A session gives a batch the time of one request and of the polling of a job. With a worker for every
command each of them is on its own: it comes to what it can come to alone if that is by the
deadline, or breaks off as it can alone, and is cut off otherwise
(`JobRunner.exists_report_of_ensures`).

Polling puts its last question by the end of its time, but the answer may come later, and the time
of the batch has no room for that beside a slow submission. So a batch outlasts the polling of its
jobs if a submission and a question take together no longer than one request may
(`Session.longest_le_deadline`). Against a server that takes 650 milliseconds for each reply, with a
second for a request, the job is overdue too late (`EndlessJob.ensures_executeRaw`).
-/

namespace ControlPlane

/-! ## The answers of a world -/

namespace World

variable {σ : Type}

/-- The ways in which requests can end in a world, and how long they take. -/
def answers (world : World σ) (request : Request) (delivery : Delivery) (span : Duration) : Prop :=
  ∃ state, ({ world with state }.deliver request).1 = delivery ∧
    ({ world with state }.deliver request).2.1 = span

theorem gives_answers (world : World σ) : world.Gives world.answers :=
  fun _ state => ⟨state, rfl, rfl⟩

/-- Nobody waits for an answer longer than it is waited for. -/
theorem span_le_patience {world : World σ} {request : Request} {delivery : Delivery}
    {span : Duration} (h : world.answers request delivery span) : span ≤ request.patience := by
  obtain ⟨state, -, rfl⟩ := h
  unfold deliver
  split
  · exact Nat.zero_le _
  · simp only
    split
    · exact Nat.le_refl _
    · rename_i hpatient
      split
      · exact Nat.le_of_not_lt hpatient
      · exact Nat.le_of_not_lt hpatient

/-- A server that always gives the same answer in the same time. -/
theorem answers_of_constant {world : World σ} {delay patience : Duration} {status : Nat}
    {body : String} (hlink : world.link = .up)
    (hserver : ∀ url state, (world.server url state).1 = ⟨delay, some (status, body)⟩)
    (hpatience : delay ≤ patience) {url : Url} {delivery : Delivery} {span : Duration}
    (h : world.answers ⟨url, patience⟩ delivery span) :
    delivery = .reply status body ∧ span = delay := by
  obtain ⟨state, rfl, rfl⟩ := h
  have hpatient : ¬ patience < delay := Nat.not_lt_of_le hpatience
  simp only [deliver, hlink, hserver, if_neg hpatient, and_self]

end World

namespace Dialogue

variable {α : Type} {answers : Request → Delivery → Duration → Prop}

/-- A dialogue ends only as it ensures. -/
theorem of_mayEnd {P : Instant → Option α → Prop} {d : Dialogue α} {now t : Instant}
    {result : Option α} (h : d.Ensures answers P now) (hend : d.MayEnd answers now t result) :
    P t result := by
  induction hend with
  | done =>
    cases h with
    | done ha => exact ha
  | broken =>
    cases h with
    | broken hnone => exact hnone
  | send hanswer _ ih =>
    cases h with
    | send h => exact ih (h _ _ hanswer)
  | readClock _ ih =>
    cases h with
    | readClock h => exact ih h
  | wait _ ih =>
    cases h with
    | wait h => exact ih h
  | draw letter _ ih =>
    cases h with
    | draw h => exact ih (h letter)

theorem le_of_mayEnd {d : Dialogue α} {now t : Instant} {result : Option α}
    (hend : d.MayEnd answers now t result) : now ≤ t := by
  induction hend with
  | done => exact Instant.le_refl _
  | broken => exact Instant.le_refl _
  | send _ _ ih => exact Instant.le_trans (Instant.le_later _ _) ih
  | readClock _ ih => exact ih
  | wait _ ih => exact Instant.le_trans (Instant.le_later _ _) ih
  | draw _ _ ih => exact ih

/-- If requests end as they are replied to, a dialogue ends with what it settles on. -/
theorem mayEnd_of_settles {reply : Request → Delivery} {horizon : Instant} {lapse : Prop}
    {P : α → Prop} {d : Dialogue α} {now t : Instant} {result : Option α}
    (hanswers : ∀ request delivery span, answers request delivery span → delivery = reply request)
    (hend : d.MayEnd answers now t result) (ht : t ≤ horizon)
    (h : d.Settles reply horizon lapse P) : ∀ a, result = some a → P a := by
  induction hend with
  | done =>
    cases h with
    | done ha =>
      rintro _ ⟨⟩
      exact ha
  | broken => exact nofun
  | send hanswer _ ih =>
    obtain rfl := hanswers _ _ _ hanswer
    cases h with
    | send h => exact ih ht h
  | readClock hrest ih =>
    cases h with
    | readClock h => exact ih ht (h _ (Instant.le_trans (le_of_mayEnd hrest) ht))
  | wait _ ih =>
    cases h with
    | wait h => exact ih ht h
  | draw letter _ ih =>
    cases h with
    | draw h => exact ih ht (h letter)

end Dialogue

/-! ## Commands on their own -/

namespace JobRunner

variable {σ : Type} {runner : JobRunner} {commands : List Command} {workers : Nat}
  {world : World σ} {command : Command} {outcome : JobOutcome} {start deadline : Instant}
  {answers : Request → Delivery → Duration → Prop}

/-- Whether an outcome tells what its command can come to alone by a deadline. -/
def TellsInTime (runner : JobRunner) (answers : Request → Delivery → Duration → Prop)
    (start deadline : Instant) (command : Command) (outcome : JobOutcome) : Prop :=
  ∃ t output, t ≤ deadline ∧
    (ExceptT.run (runner.client.executeRaw command)).MayEnd answers start t (some output) ∧
    outcome.Tells runner.table output

/-- Whether an outcome says nothing but that time ran out, of a command that alone would have ended
after the deadline. -/
structure IsCutOff (runner : JobRunner) (answers : Request → Delivery → Duration → Prop)
    (start deadline : Instant) (command : Command) (outcome : JobOutcome) : Prop where
  jobId : outcome.jobId = none
  result : outcome.result = .timedOut
  late : ∃ t output?, deadline < t ∧
    (ExceptT.run (runner.client.executeRaw command)).MayEnd answers start t output?

/-- Whether an outcome says nothing but that there is no result, or that time ran out, of a command
that alone would have broken off by the deadline. -/
structure IsBrokenOff (runner : JobRunner) (answers : Request → Delivery → Duration → Prop)
    (start deadline : Instant) (command : Command) (outcome : JobOutcome) : Prop where
  jobId : outcome.jobId = none
  result : outcome.result = .timedOut ∨ outcome.result = .failed JobOutcome.noResult
  inTime : ∃ t ≤ deadline,
    (ExceptT.run (runner.client.executeRaw command)).MayEnd answers start t none

/-- What becomes of a command that is on its own in a batch. -/
inductive OnItsOwn (runner : JobRunner) (answers : Request → Delivery → Duration → Prop)
    (start deadline : Instant) (command : Command) (outcome : JobOutcome) : Prop
  | tells (h : runner.TellsInTime answers start deadline command outcome)
  | cutOff (h : runner.IsCutOff answers start deadline command outcome)
  | brokenOff (h : runner.IsBrokenOff answers start deadline command outcome)

/-- In a batch with a worker for every command each command is on its own. -/
theorem exists_report_of_ensures {schedule : Schedule}
    {P : Nat → Instant → Option (Except ClientError CommandOutput) → Prop}
    (hschedule : runner.schedule? commands.length workers .zero world.clock = some schedule)
    (hworkers : commands.length ≤ workers) (hgives : world.Gives answers)
    (hensures : ∀ (k : Nat) command, commands[k]? = some command →
      (ExceptT.run (runner.client.executeRaw command)).Ensures answers (P k) world.clock) :
    ∃ report world', runner.submitAll commands workers world = (some report, world') ∧
      report.outcomes.length = commands.length ∧
      ∀ (k : Nat) command outcome, commands[k]? = some command →
        report.outcomes[k]? = some outcome → IsOutcomeOf commands k outcome ∧
          OnItsOwn runner answers world.clock schedule.deadline command outcome := by
  obtain ⟨batch, ⟨events, crew, hruns, -, rfl⟩, hstages, hover, hrun⟩ :=
    Crew.exists_reaches_of_run hschedule
  have htracked := Batch.tracked_of_history (Crew.history_of_runs hruns)
    (Batch.tracked_initial runner commands world)
  have hfaithful := Batch.isFaithful_of_isOver htracked hover world.clock
  refine ⟨_, _, hrun, hfaithful.length, ?_⟩
  intro k command outcome hcommand houtcome
  refine ⟨hfaithful.place k outcome houtcome, ?_⟩
  obtain ⟨hk, -⟩ := List.getElem?_eq_some_iff.1 hcommand
  have hends : ∀ (j : Nat) command, commands[j]? = some command →
      (ExceptT.run (runner.client.executeRaw command)).Ensures answers
        (fun t output? => ∀ own, commands[j]? = some own →
          (ExceptT.run (runner.client.executeRaw own)).MayEnd answers world.clock t output?)
        world.clock := by
    intro j own hown
    refine Dialogue.ensures_mono (Dialogue.ensures_mayEnd (hensures j own hown)) ?_
    rintro t output? ⟨-, hend⟩ _ hother
    rw [hown, Option.some.injEq] at hother
    exact hother ▸ hend
  rcases ended_or_late_of_ensures hschedule hworkers hgives hends hk with
    ⟨outcome?, t, output?, hended, ht, hend, hmade⟩ | ⟨hnot, t, output?, hlate, hend⟩
  · rw [← hstages] at hended
    cases hmade with
    | @some output own hmade =>
      have hkept := hfaithful.kept k own hended
      rw [houtcome, Option.some.injEq] at hkept
      exact .tells ⟨t, output, ht, hend command hcommand, hkept ▸ hmade.tells⟩
    | none =>
      have hnone : ∀ own, ¬ CameTo crew.batch.stages k own := by
        intro own hown
        rw [CameTo, hended] at hown
        exact absurd hown (by simp)
      obtain ⟨hjob, -, hresult⟩ := hfaithful.others k outcome houtcome hnone
      refine .brokenOff ⟨hjob, ?_, t, ht, hend command hcommand⟩
      rw [hresult]
      split
      · exact .inl rfl
      · exact .inr rfl
  · rw [← hstages] at hnot
    obtain ⟨hjob, -, hresult⟩ := hfaithful.others k outcome houtcome fun own hown =>
      hnot (some own) hown
    rw [if_pos (isCutShort_of_unfinished (htracked.length_stages ▸ hk) hnot)] at hresult
    exact .cutOff ⟨hjob, hresult, t, output?, hlate, hend command hcommand⟩

/-- If replies depend on the request only, what a command can come to in time is what it comes to
when it is run alone. -/
theorem tells_of_steady {τ : Type} {reply : Request → Delivery} {alone : World τ}
    {output : Except ClientError CommandOutput} (hsteady : world.Steady reply)
    (h : TellsInTime runner world.answers start deadline command outcome)
    (halone : alone.Steady reply)
    (hrun : ((runner.client.executeRaw command).run alone).1 = some output) :
    outcome.Tells runner.table output := by
  obtain ⟨t, own, ht, hend, htells⟩ := h
  have hanswers : ∀ request delivery span, world.answers request delivery span →
      delivery = reply request := by
    rintro request delivery span ⟨state, rfl, -⟩
    exact hsteady request state
  have hown := Dialogue.mayEnd_of_settles hanswers hend ht
    (Connection.settles_executeRaw runner.client.connection reply command deadline) own rfl
  rw [(run_executeRaw_of_steady runner.client command halone).1 output hrun]
  exact hown ▸ htells

end JobRunner

/-! ## Batches of a session -/

namespace Session

open JobRunner

variable {σ : Type} {settings : Settings} {table : Option JobTable} {session : Session}
  {commands : List Command} {workers : Option Nat} {world : World σ}

/-- What a session is made of. -/
theorem assemble?_eq_some
    (h : assemble? settings (bootstrapClient settings) table = some session) :
    session.settings = settings ∧ session.runner.client = bootstrapClient settings ∧
      session.runner.table = table ∧
      session.runner.batchTimeout =
        settings.asyncTimeout.add settings.management.requestTimeout := by
  rw [assemble?, batchTimeout?] at h
  split at h
  · simp only [Option.pure_def, Option.bind_eq_bind, Option.bind_some, Option.some.injEq] at h
    obtain rfl := h
    exact ⟨rfl, rfl, rfl, rfl⟩
  · exact absurd h (by simp)

/-- A request and then a job have time in a batch whose deadline can be represented. -/
theorem hasTime_of_deadline {now deadline : Instant} {request : Duration}
    (hdeadline : now.later? (settings.asyncTimeout.add settings.management.requestTimeout) =
      some deadline) (hrequest : request ≤ settings.management.requestTimeout) :
    (bootstrapClient settings).connection.HasTime (now.later request) := by
  have hfits := Instant.isSome_later?_iff.1 (Option.isSome_iff_exists.2 ⟨deadline, hdeadline⟩)
  refine Instant.isSome_later?_iff.2 (Instant.fits_of_le hfits ?_)
  have hle : request.nanoseconds ≤ settings.management.requestTimeout.nanoseconds := hrequest
  show now.nanoseconds + request.nanoseconds + settings.asyncTimeout.nanoseconds ≤
    now.nanoseconds +
      (settings.asyncTimeout.nanoseconds + settings.management.requestTimeout.nanoseconds)
  omega

/-- The time of a batch has room for a command if a submission and a question about its job take no
longer than one request may. -/
theorem longest_le_deadline {now deadline : Instant} {command : Command}
    {request question : Duration}
    (hdeadline : now.later? (settings.asyncTimeout.add settings.management.requestTimeout) =
      some deadline)
    (hroom : request.nanoseconds + question.nanoseconds +
      (bootstrapClient settings).connection.slack.nanoseconds ≤
        settings.management.requestTimeout.nanoseconds) :
    now.later ((bootstrapClient settings).connection.longest command request question) ≤
      deadline := by
  rw [← Instant.later_of_later? hdeadline]
  refine Nat.add_le_add_left ?_ _
  have hpolling : (bootstrapClient settings).connection.asyncTimeout = settings.asyncTimeout := rfl
  rw [Connection.longest, hpolling]
  split
  · show request.nanoseconds + (settings.asyncTimeout.nanoseconds + (question.nanoseconds +
        (bootstrapClient settings).connection.slack.nanoseconds)) ≤
      settings.asyncTimeout.nanoseconds + settings.management.requestTimeout.nanoseconds
    omega
  · show request.nanoseconds ≤
      settings.asyncTimeout.nanoseconds + settings.management.requestTimeout.nanoseconds
    omega

/-- In a batch whose deadline can be represented, a command takes no longer than it can. -/
theorem ensures_executeRaw_of_deadline {now deadline : Instant} {command : Command}
    {answers : Request → Delivery → Duration → Prop} {request question : Duration}
    (hanswers : (bootstrapClient settings).connection.AnswersWithin command answers request
      question)
    (hdeadline : now.later? (settings.asyncTimeout.add settings.management.requestTimeout) =
      some deadline) (hrequest : request ≤ settings.management.requestTimeout) :
    (ExceptT.run ((bootstrapClient settings).executeRaw command)).Ensures answers
      ((bootstrapClient settings).connection.EndsBy
        (now.later ((bootstrapClient settings).connection.longest command request question))) now :=
  Connection.ensures_executeRaw hanswers fun _ => hasTime_of_deadline hdeadline hrequest

/-- Nobody waits for an answer longer than one request may take. -/
theorem answersWithin_requestTimeout (settings : Settings) (command : Command) (world : World σ) :
    (bootstrapClient settings).connection.AnswersWithin command world.answers
      settings.management.requestTimeout settings.management.requestTimeout :=
  ⟨fun _ _ _ _ h => World.span_le_patience h, fun _ _ _ _ _ h => World.span_le_patience h⟩

/-- A batch that is submitted all at once with a worker for every command returns a report, and each
command is on its own. -/
theorem exists_report_onItsOwn
    (hsession : assemble? settings (bootstrapClient settings) table = some session)
    {deadline : Instant}
    (hdeadline : world.clock.later?
      (settings.asyncTimeout.add settings.management.requestTimeout) = some deadline)
    (hcount : commands.length ≤ workers.getD settings.defaultWorkers)
    (hworkers : workers.getD settings.defaultWorkers ≤ workerLimit) :
    ∃ report world', session.submitAll commands workers world = (some report, world') ∧
      report.outcomes.length = commands.length ∧
      ∀ (k : Nat) command outcome, commands[k]? = some command →
        report.outcomes[k]? = some outcome → IsOutcomeOf commands k outcome ∧
          session.runner.OnItsOwn world.answers world.clock deadline command outcome := by
  obtain ⟨hsettings, hclient, -, hlimit⟩ := assemble?_eq_some hsession
  have hisSome : (world.clock.later? session.runner.batchTimeout).isSome := by
    rw [hlimit, hdeadline]
    rfl
  obtain ⟨schedule, hschedule, -⟩ := exists_schedule hisSome hworkers commands.length .zero
  have hscheduleDeadline : deadline = schedule.deadline := by
    have htimes := (times_of_schedule? hschedule).2
    rwa [hlimit, hdeadline, Option.some.injEq] at htimes
  have hensures : ∀ (k : Nat) command, commands[k]? = some command →
      (ExceptT.run (session.runner.client.executeRaw command)).Ensures world.answers
        (fun _ _ => True) world.clock := by
    intro k command _
    rw [hclient]
    exact Dialogue.ensures_mono (ensures_executeRaw_of_deadline
      (answersWithin_requestTimeout settings command world) hdeadline (Nat.le_refl _))
      fun _ _ _ => trivial
  obtain ⟨report, world', hrun, hlength, houtcomes⟩ :=
    exists_report_of_ensures hschedule hcount world.gives_answers hensures
  rw [← hscheduleDeadline] at houtcomes
  refine ⟨report, world', ?_, hlength, houtcomes⟩
  rw [submitAll, hsettings]
  exact hrun

end Session

/-! ## A server that never finishes a job -/

namespace EndlessJob

open Session

/-- What a server that goes on with a job says to the command and to each question. -/
def reply : String := "\x7b\"jobid\":\"j-1\",\"jobstatus\":0\x7d"

/-- What it says, read. -/
def body : Json := .obj [("jobid", .str "j-1"), ("jobstatus", .num (.whole 0))]

/-- A world with a server that goes on with a job forever, and takes its time for each reply. -/
def world (delay : Duration) : World Unit :=
  ⟨⟨0⟩, fun _ _ => (⟨delay, some (200, reply)⟩, ()), (), .up, fun _ => Fin.last 61, 0, []⟩

/-- A second for a request and a second for a job, with a question every 200 milliseconds. -/
def settings : Settings where
  management := { host := "127.0.0.1", port := 8080, requestTimeoutSecs := 1 }
  asyncTimeoutSecs := 1
  pollIntervalMs := 200

/-- A command that starts a job. -/
def command : Command := (Command.named "deployVirtualMachine").asynchronous

variable {delay : Duration}

theorem answers_world (hdelay : delay ≤ .ofSeconds 1) {url : Url} {delivery : Delivery}
    {span : Duration} (h : (world delay).answers ⟨url, .ofSeconds 1⟩ delivery span) :
    delivery = .reply 200 reply ∧ span = delay :=
  World.answers_of_constant rfl (fun _ _ => rfl) hdelay h

/-- Every reply takes its time. -/
theorem ensures_send (hdelay : delay ≤ .ofSeconds 1) {command : Command}
    (hread : Envelope.decode command.name 200 reply = .ok body) (now : Instant) :
    (ExceptT.run ((bootstrapClient settings).connection.send command)).Ensures (world delay).answers
      (fun t result => t = now.later delay ∧ result = some (.ok body)) now := by
  obtain ⟨url, hsend, -⟩ := Connection.exists_request (bootstrapClient settings).connection rfl
    (show Url.parse settings.management.endpoint =
      .ok ⟨"http", "127.0.0.1", some 8080, "/client/api".toList, none, none⟩ from rfl)
    (by
      rw [show settings.management.endpoint = "http://127.0.0.1:8080/client/api" from rfl]
      simp) command
  rw [hsend]
  refine .send fun delivery span hanswer => ?_
  obtain ⟨rfl, rfl⟩ := answers_world hdelay hanswer
  exact .done ⟨rfl, congrArg some hread⟩

/-- The job is never finished. -/
theorem findsPending (hdelay : delay ≤ .ofSeconds 1) :
    (bootstrapClient settings).connection.FindsPending (world delay).answers "j-1" delay := by
  intro now
  have hread : Envelope.decode (Call.jobResult "j-1").toCommand.name 200 reply = .ok body := rfl
  refine Dialogue.ensures_action_bind (ensures_send hdelay hread now) ?_ ?_ ?_
  · rintro _ _ ⟨rfl, ⟨⟩⟩
    exact .done ⟨rfl, _, rfl, rfl⟩
  · rintro _ _ ⟨-, ⟨⟩⟩
  · rintro _ ⟨-, ⟨⟩⟩

/-- What is said of the job when it is overdue. -/
def overdue : ClientError :=
  (bootstrapClient settings).connection.jobOverdue command.name "j-1"

/-- With 650 milliseconds for a reply the job is overdue after 2150 milliseconds: it is started
after 650, and asked about then and 850 milliseconds later. -/
theorem ensures_executeRaw :
    (ExceptT.run ((bootstrapClient settings).executeRaw command)).Ensures
      (world (.ofMilliseconds 650)).answers
      (fun t result => t = ⟨2150000000⟩ ∧ result = some (.error overdue)) ⟨0⟩ := by
  have hread : Envelope.decode command.name 200 reply = .ok body := rfl
  have hpending := @findsPending (.ofMilliseconds 650) (by decide)
  refine Dialogue.ensures_action_bind (ensures_send (by decide) hread _) ?_ ?_ ?_
  · rintro _ _ ⟨rfl, ⟨⟩⟩
    have hwait : (ExceptT.run ((bootstrapClient settings).connection.waitForJob
        command.name "j-1")).Ensures (world (.ofMilliseconds 650)).answers
        (fun t result => t = ⟨2150000000⟩ ∧ result = some (.error overdue)) ⟨650000000⟩ := by
      have hdeadline : Instant.later? ⟨650000000⟩
          (bootstrapClient settings).connection.asyncTimeout = some ⟨1650000000⟩ := rfl
      refine Dialogue.ensures_instantAfter_bind_of_some hdeadline ?_
      -- asked after 650 and after 1500 milliseconds; the next question would come after 2350
      refine Connection.ensures_pollUntil_pending hpending (by decide)
        (fun h => absurd h (by decide)) fun _ => ?_
      exact Connection.ensures_pollUntil_pending hpending (by decide) (fun _ => ⟨rfl, rfl⟩)
        fun h => absurd h (by decide)
    refine Dialogue.ensures_action_bind hwait ?_ ?_ ?_
    · rintro _ _ ⟨-, ⟨⟩⟩
    · rintro _ _ ⟨rfl, ⟨⟩⟩
      exact ⟨rfl, rfl⟩
    · rintro _ ⟨-, ⟨⟩⟩
  · rintro _ _ ⟨-, ⟨⟩⟩
  · rintro _ ⟨-, ⟨⟩⟩

end EndlessJob

/-! ## Commands of a session -/

namespace Session

open JobRunner

variable {σ : Type} {settings : Settings} {table : Option JobTable} {session : Session}

/-- In a session, a batch that is submitted all at once with a worker for every command returns a
report, and each command comes to what it can come to alone by the deadline, or is cut off, or
breaks off. It is not cut off if a submission and a question about its job take no longer than one
request may, and does not break off if the clock can represent a question that comes an interval
after the deadline. If replies depend on the request only, what it can come to is what it comes to alone. -/
theorem submitAll_onItsOwn
    (hsession : assemble? settings (bootstrapClient settings) table = some session)
    (commands : List Command) (workers : Option Nat) (world : World σ) {deadline : Instant}
    (hdeadline : world.clock.later?
      (settings.asyncTimeout.add settings.management.requestTimeout) = some deadline)
    (hcount : commands.length ≤ workers.getD settings.defaultWorkers)
    (hworkers : workers.getD settings.defaultWorkers ≤ workerLimit) :
    ∃ report world', session.submitAll commands workers world = (some report, world') ∧
      report.outcomes.length = commands.length ∧
      ∀ (k : Nat) command outcome, commands[k]? = some command →
        report.outcomes[k]? = some outcome →
        IsOutcomeOf commands k outcome ∧
        session.runner.OnItsOwn world.answers world.clock deadline command outcome ∧
        (∀ request question, (bootstrapClient settings).connection.AnswersWithin command
            world.answers request question →
          request.nanoseconds + question.nanoseconds +
            (bootstrapClient settings).connection.slack.nanoseconds ≤
              settings.management.requestTimeout.nanoseconds →
          ¬ session.runner.IsCutOff world.answers world.clock deadline command outcome) ∧
        ((deadline.later settings.pollInterval).fits = true →
          ¬ session.runner.IsBrokenOff world.answers world.clock deadline command outcome) ∧
        ∀ reply, world.Steady reply →
          session.runner.TellsInTime world.answers world.clock deadline command outcome →
          ∀ (τ : Type) (alone : World τ) output, alone.Steady reply →
            (((bootstrapClient settings).executeRaw command).run alone).1 = some output →
              outcome.Tells table output := by
  obtain ⟨-, hclient, htable, -⟩ := assemble?_eq_some hsession
  obtain ⟨report, world', hrun, hlength, houtcomes⟩ :=
    exists_report_onItsOwn hsession hdeadline hcount hworkers
  refine ⟨report, world', hrun, hlength, ?_⟩
  intro k command outcome hcommand houtcome
  obtain ⟨hown, honItsOwn⟩ := houtcomes k command outcome hcommand houtcome
  refine ⟨hown, honItsOwn, ?_, ?_, ?_⟩
  · rintro request question hanswers hroom ⟨-, -, t, output?, hlate, hend⟩
    have hrequest : request ≤ settings.management.requestTimeout := by
      refine Nat.le_trans ?_ hroom
      omega
    rw [hclient] at hend
    have ht := Dialogue.of_mayEnd (ensures_executeRaw_of_deadline hanswers hdeadline hrequest) hend
    exact absurd (Instant.le_trans ht.le (longest_le_deadline hdeadline hroom))
      (Nat.not_le_of_lt hlate)
  · rintro hfits ⟨-, -, t, ht, hend⟩
    rw [hclient] at hend
    have hnone := (Dialogue.of_mayEnd (ensures_executeRaw_of_deadline
      (answersWithin_requestTimeout settings command world) hdeadline (Nat.le_refl _)) hend).broken
        rfl
    have hnext : (t.later settings.pollInterval).fits = true :=
      Instant.fits_of_le hfits (Nat.add_le_add_right ht _)
    exact absurd (hnone.symm.trans (Instant.later?_eq_some hnext)) (by simp)
  · intro reply hsteady htells τ alone output halone houtput
    rw [← hclient] at houtput
    exact htable ▸ tells_of_steady hsteady htells halone houtput

/-- With 100 milliseconds for a reply the batch outlasts its job, which is overdue and named. -/
theorem exists_outlasting_batch :
    ∃ session report world', connect EndlessJob.settings = .ok (some session) ∧
      session.submitAll [EndlessJob.command] (some 1) (EndlessJob.world (.ofMilliseconds 100)) =
        (some report, world') ∧
      ∃ outcome, report.outcomes[0]? = some outcome ∧
        session.runner.TellsInTime (EndlessJob.world (.ofMilliseconds 100)).answers ⟨0⟩
          ⟨2000000000⟩ EndlessJob.command outcome := by
  have hanswers : (bootstrapClient EndlessJob.settings).connection.AnswersWithin EndlessJob.command
      (EndlessJob.world (.ofMilliseconds 100)).answers (.ofMilliseconds 100)
      (.ofMilliseconds 100) :=
    ⟨fun _ _ _ _ h => (EndlessJob.answers_world (by decide) h).2 ▸ Nat.le_refl _,
      fun _ _ _ _ _ h => (EndlessJob.answers_world (by decide) h).2 ▸ Nat.le_refl _⟩
  have hdeadline : (EndlessJob.world (.ofMilliseconds 100)).clock.later?
      (EndlessJob.settings.asyncTimeout.add EndlessJob.settings.management.requestTimeout) =
        some ⟨2000000000⟩ := rfl
  obtain ⟨session, hsession⟩ : ∃ session,
      assemble? EndlessJob.settings (bootstrapClient EndlessJob.settings) none = some session :=
    ⟨_, rfl⟩
  obtain ⟨report, world', hrun, hlength, houtcomes⟩ :=
    submitAll_onItsOwn hsession [EndlessJob.command] (some 1)
      (EndlessJob.world (.ofMilliseconds 100)) hdeadline (by decide) (by decide)
  obtain ⟨outcome, houtcome⟩ : ∃ outcome, report.outcomes[0]? = some outcome :=
    ⟨_, List.getElem?_eq_getElem (hlength ▸ Nat.zero_lt_one)⟩
  obtain ⟨-, honItsOwn, hnotCut, hnotBroken, -⟩ :=
    houtcomes 0 EndlessJob.command outcome rfl houtcome
  refine ⟨session, report, world', congrArg Except.ok hsession, hrun, outcome, houtcome, ?_⟩
  cases honItsOwn with
  | tells htells => exact htells
  | cutOff hcut => exact absurd hcut (hnotCut _ _ hanswers (by decide))
  | brokenOff hbroken => exact absurd hbroken (hnotBroken (by decide))

/-- With 650 milliseconds for a reply, less than the second for a request, the command comes to an
overdue job when it is run alone; in a batch it is cut off before, and the job goes unnamed. -/
theorem exists_unnamed_job :
    ∃ session report world', connect EndlessJob.settings = .ok (some session) ∧
      (((bootstrapClient EndlessJob.settings).executeRaw EndlessJob.command).run
        (EndlessJob.world (.ofMilliseconds 650))).1 = some (.error EndlessJob.overdue) ∧
      EndlessJob.overdue.jobId? = some "j-1" ∧
      session.submitAll [EndlessJob.command] (some 1) (EndlessJob.world (.ofMilliseconds 650)) =
        (some report, world') ∧
      ∃ outcome, report.outcomes[0]? = some outcome ∧ outcome.jobId = none ∧
        outcome.result = .timedOut := by
  have hdeadline : (EndlessJob.world (.ofMilliseconds 650)).clock.later?
      (EndlessJob.settings.asyncTimeout.add EndlessJob.settings.management.requestTimeout) =
        some ⟨2000000000⟩ := rfl
  obtain ⟨session, hsession⟩ : ∃ session,
      assemble? EndlessJob.settings (bootstrapClient EndlessJob.settings) none = some session :=
    ⟨_, rfl⟩
  obtain ⟨-, hclient, -, -⟩ := assemble?_eq_some hsession
  obtain ⟨-, hresult⟩ := Dialogue.run_of_ensures EndlessJob.ensures_executeRaw
    (EndlessJob.world (.ofMilliseconds 650)).gives_answers
  obtain ⟨report, world', hrun, hlength, houtcomes⟩ :=
    @exists_report_onItsOwn _ _ _ _ [EndlessJob.command] (some 1)
      (EndlessJob.world (.ofMilliseconds 650)) hsession _ hdeadline (by decide) (by decide)
  obtain ⟨outcome, houtcome⟩ : ∃ outcome, report.outcomes[0]? = some outcome :=
    ⟨_, List.getElem?_eq_getElem (hlength ▸ Nat.zero_lt_one)⟩
  refine ⟨session, report, world', congrArg Except.ok hsession, hresult, rfl, hrun, outcome,
    houtcome, ?_⟩
  obtain ⟨-, honItsOwn⟩ := houtcomes 0 EndlessJob.command outcome rfl houtcome
  cases honItsOwn with
  | tells htells =>
    obtain ⟨t, output, ht, hend, -⟩ := htells
    rw [hclient] at hend
    obtain ⟨rfl, -⟩ := Dialogue.of_mayEnd EndlessJob.ensures_executeRaw hend
    exact absurd ht (by decide)
  | cutOff hcut => exact ⟨hcut.jobId, hcut.result⟩
  | brokenOff hbroken =>
    obtain ⟨-, -, t, -, hend⟩ := hbroken
    rw [hclient] at hend
    obtain ⟨-, ⟨⟩⟩ := Dialogue.of_mayEnd EndlessJob.ensures_executeRaw hend

end Session

end ControlPlane
