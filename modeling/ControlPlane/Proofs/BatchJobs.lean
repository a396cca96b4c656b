import ControlPlane.Proofs.HeardReplies
import ControlPlane.Proofs.OutlastedPolling

/-!
# Jobs of a batch

A command that starts a job is told its id once, in the reply to its submission. `Crew.Told` is a
batch, event by event, with what each of its commands has heard so far: the replies that the server
gave it and no others (`attentive_of_told`).

When such a command has come to its end, its outcome names the job if the last answer about the job
could be read, and then it has the row of the job, however the job ended (`NamesJob.kept_iff`). If
the last answer was an error, or could not be read, or there was none, job and row are lost
(`NamesJob.lost`): the error belongs to no job. So a job is lost if the server does not say how far
it is, although its reply to the submission named it (`exists_lost_job`).
-/

namespace ControlPlane

/-! ## Answers that are heard -/

/-- What a dialogue hears is what the world answers. -/
theorem Dialogue.answered_heard {α σ : Type} {answers : Request → Delivery → Duration → Prop}
    (d : Dialogue α) {world : World σ} (h : world.Gives answers) :
    ∀ exchange ∈ d.heard world, ∃ span, answers exchange.request exchange.delivery span := by
  induction d generalizing world with
  | done a => exact nofun
  | broken => exact nofun
  | send request next _ =>
    intro exchange hmem
    obtain rfl := List.mem_singleton.1 hmem
    exact ⟨_, h.deliver request⟩
  | readClock next ih => exact ih _ h
  | wait span next _ => exact nofun
  | draw next ih => exact @ih _ world.drawOne.2 (h.congr rfl rfl)

/-- Whether work that has heard something stands at a stage. -/
def Stage.IsAfter {α : Type} (d : Dialogue α) (exchanges : List Exchange) : Stage α → Prop
  | .upcoming work | .queued work | .running _ work => d.Hears exchanges work
  | .ended (some a) => d.Hears exchanges (.done a)
  | .ended none => True

namespace JobRunner

variable {σ : Type}

namespace Crew

/-- What the command at an index hears when it goes on. -/
def heardBy (crew : Crew σ) (k : Nat) : List Exchange :=
  match crew.batch.stages[k]? with
  | some (.running _ work) => work.heard crew.batch.world
  | _ => []

/-- What the commands have heard after an event. -/
def noted (crew : Crew σ) (heard : Nat → List Exchange) : Event → Nat → List Exchange
  | .resumes k | .ends k => Function.update heard k (heard k ++ crew.heardBy k)
  | _ => heard

/-- Events one after another, the latest first, what each command hears in them, and what they make
of a crew. -/
inductive Told (schedule : Schedule) (crew : Crew σ) :
    (Nat → List Exchange) → List Event → Crew σ → Prop
  | nil : Told schedule crew (fun _ => []) [] crew
  | cons {heard : Nat → List Exchange} {events : List Event} {event : Event}
    {crew' crew'' : Crew σ} (h : Told schedule crew heard events crew')
    (hstep : Step schedule crew' event crew'') :
    Told schedule crew (crew'.noted heard event) (event :: events) crew''

theorem runs_of_told {schedule : Schedule} {crew crew' : Crew σ} {heard : Nat → List Exchange}
    {events : List Event} (h : Told schedule crew heard events crew') :
    Runs schedule crew events crew' := by
  induction h with
  | nil => exact .nil
  | cons _ hstep ih => exact .cons ih hstep

theorem exists_told_of_runs {schedule : Schedule} {crew crew' : Crew σ} {events : List Event}
    (h : Runs schedule crew events crew') :
    ∃ heard, Told schedule crew heard events crew' := by
  induction h with
  | nil => exact ⟨_, .nil⟩
  | cons _ hstep ih =>
    obtain ⟨heard, htold⟩ := ih
    exact ⟨_, .cons htold hstep⟩

/-- What the commands have heard is what the world answered, and has brought them where they
stand. -/
structure Attentive (runner : JobRunner) (answers : Request → Delivery → Duration → Prop)
    (commands : List Command) (heard : Nat → List Exchange) (crew : Crew σ) : Prop where
  gives : crew.batch.world.Gives answers
  answered : ∀ k, ∀ exchange ∈ heard k, ∃ span, answers exchange.request exchange.delivery span
  stages : ∀ (k : Nat) command (stage : Stage JobOutcome), commands[k]? = some command →
    crew.batch.stages[k]? = some stage → stage.IsAfter (runner.runOne k command) (heard k)

section Attentive

variable {runner : JobRunner} {answers : Request → Delivery → Duration → Prop}
  {commands : List Command} {heard : Nat → List Exchange}

theorem attentive_initial {world : World σ} (schedule : Schedule) (h : world.Gives answers) :
    Attentive runner answers commands (fun _ => []) (initial runner commands schedule world) := by
  refine ⟨h, fun _ => nofun, ?_⟩
  intro k command stage hcommand hstage
  simp only [initial, Batch.initial, getElem?_stagesFrom, hcommand, Option.map_some,
    Option.some.injEq, Nat.zero_add] at hstage
  exact hstage ▸ .nil _

/-- A crew stays attentive when the work at an index goes on and hears something more. -/
theorem attentive_put {crew : Crew σ} (h : Attentive runner answers commands heard crew)
    {k : Nat} (permits : Nat) {stage stage' : Stage JobOutcome} {world : World σ}
    (hk : crew.batch.stages[k]? = some stage) (hgives : world.Gives answers)
    (more : List Exchange)
    (hmore : ∀ exchange ∈ more, ∃ span, answers exchange.request exchange.delivery span)
    (hstage : ∀ d exchanges, stage.IsAfter d exchanges → stage'.IsAfter d (exchanges ++ more)) :
    Attentive runner answers commands (Function.update heard k (heard k ++ more))
      { crew.put k stage' world with permits } := by
  obtain ⟨hlt, -⟩ := List.getElem?_eq_some_iff.1 hk
  refine ⟨hgives, ?_, ?_⟩
  · intro j exchange hmem
    by_cases hjk : j = k
    · subst hjk
      rw [Function.update_self, List.mem_append] at hmem
      exact hmem.elim (h.answered j exchange) (hmore exchange)
    · rw [Function.update_of_ne hjk] at hmem
      exact h.answered j exchange hmem
  · intro j command other hcommand hother
    simp only [put] at hother
    by_cases hjk : j = k
    · subst hjk
      rw [List.getElem?_set_self hlt, Option.some.injEq] at hother
      rw [Function.update_self]
      exact hother ▸ hstage _ _ (h.stages j command stage hcommand hk)
    · rw [List.getElem?_set_ne (Ne.symm hjk)] at hother
      rw [Function.update_of_ne hjk]
      exact h.stages j command other hcommand hother

/-- A crew stays attentive when something happens that nobody hears of. -/
theorem attentive_put_silent {crew : Crew σ} (h : Attentive runner answers commands heard crew)
    {k : Nat} (permits : Nat) {stage stage' : Stage JobOutcome}
    (hk : crew.batch.stages[k]? = some stage)
    (hstage : ∀ d exchanges, stage.IsAfter d exchanges → stage'.IsAfter d exchanges) :
    Attentive runner answers commands heard
      { crew.put k stage' crew.batch.world with permits } := by
  have hput := attentive_put h permits hk h.gives [] nofun
    fun d exchanges hbefore => (List.append_nil exchanges).symm ▸ hstage d exchanges hbefore
  rwa [List.append_nil, Function.update_eq_self] at hput

theorem attentive_of_step {schedule : Schedule} {event : Event} {crew crew' : Crew σ}
    (hstep : Step schedule crew event crew')
    (h : Attentive runner answers commands heard crew) :
    Attentive runner answers commands (crew.noted heard event) crew' := by
  -- a command at work hears what the world answers
  have goesOn : ∀ {k : Nat} {wake : Instant} {work : Dialogue JobOutcome}
      {progress : Dialogue.Progress JobOutcome} {world : World σ},
      crew.batch.stages[k]? = some (.running wake work) →
      work.advance crew.batch.world = (progress, world) →
        world.Gives answers ∧
        (∀ exchange ∈ crew.heardBy k, ∃ span,
          answers exchange.request exchange.delivery span) ∧
        progress.IsAfter work (crew.heardBy k) := by
    intro k wake work progress world hk hadvance
    have hgives := Dialogue.gives_advance work h.gives
    have hafter := Dialogue.hears_of_advance work crew.batch.world
    rw [hadvance] at hgives hafter
    simp only [heardBy, hk]
    exact ⟨hgives, Dialogue.answered_heard work h.gives, hafter⟩
  cases hstep with
  | passes span => exact ⟨h.gives.congr rfl rfl, h.answered, h.stages⟩
  | submits hk _ => exact attentive_put_silent h _ hk fun _ _ hbefore => hbefore
  | starts hk _ => exact attentive_put_silent h _ hk fun _ _ hbefore => hbefore
  | resumes hk _ hadvance =>
    obtain ⟨hgives, hanswered, hafter⟩ := goesOn hk hadvance
    exact attentive_put h _ hk hgives _ hanswered
      fun _ _ hbefore => Dialogue.hears_trans hbefore hafter
  | @ends k wake work result world hk _ hadvance =>
    obtain ⟨hgives, hanswered, hafter⟩ := goesOn hk hadvance
    refine attentive_put h _ hk hgives _ hanswered ?_
    intro d exchanges hbefore
    cases result with
    | none => exact trivial
    | some outcome => exact Dialogue.hears_trans hbefore hafter
  | breaksOff hk => exact attentive_put_silent h _ hk fun _ _ _ => trivial
  | joins _ _ _ => exact ⟨h.gives, h.answered, h.stages⟩

theorem attentive_of_told {schedule : Schedule} {world : World σ} {events : List Event}
    {crew : Crew σ} (hgives : world.Gives answers)
    (h : Told schedule (initial runner commands schedule world) heard events crew) :
    Attentive runner answers commands heard crew := by
  induction h with
  | nil => exact attentive_initial schedule hgives
  | cons _ hstep ih => exact attentive_of_step hstep ih

end Attentive

end Crew

/-! ## Jobs that are named -/

/-- What becomes of a job in the outcome of the command that started it, by the last answer about
the job. -/
structure NamesJob (runner : JobRunner) (jobId : String) (last : Delivery) (outcome : JobOutcome) :
    Prop where
  /-- The job is kept, with its row, if and only if the last answer could be read. -/
  kept_iff : (outcome.jobId = some jobId ∧ ∀ rows found, runner.table = some rows →
      rows.record jobId = .ok found → outcome.record = found) ↔
    ∃ job, runner.client.connection.answer (.jobResult jobId) last = .ok job
  /-- An error in place of an answer is all that is left. -/
  lost : ∀ error, runner.client.connection.answer (.jobResult jobId) last = .error error →
    outcome.jobId = none ∧ outcome.record = none ∧ outcome.result = .ofError error

theorem recordOf_of_record {rows : JobTable} {jobId : String} {found : Option JobRecord}
    (h : rows.record jobId = .ok found) : recordOf (some rows) (some jobId) = found := by
  rw [recordOf, JobTable.record?, h]

/-- The error of a question belongs to no job. -/
theorem jobId?_of_answer {connection : Connection} {jobId : String} {delivery : Delivery}
    {error : ClientError}
    (h : connection.answer (.jobResult jobId) delivery = .error error) : error.jobId? = none := by
  unfold Connection.answer at h
  split at h
  · rename_i own hreply
    obtain rfl : own = error := Except.error.inj h
    unfold Connection.reply at hreply
    split at hreply
    · obtain rfl := Except.error.inj hreply
      rfl
    · exact Connection.jobId?_of_receive hreply
  · rename_i body _
    unfold Connection.decoded at h
    split at h
    · exact absurd h (by simp)
    · obtain rfl := Except.error.inj h
      rfl

theorem namesJob_of_isMadeOf {runner : JobRunner} {name jobId : String} {last : Delivery}
    {outcome : JobOutcome}
    (h : IsMadeOf runner.table (Connection.jobOutput jobId (runner.client.connection.verdict name
      jobId (runner.client.connection.answer (.jobResult jobId) last))) outcome) :
    runner.NamesJob jobId last outcome := by
  obtain ⟨hjob, hresult, hrecord⟩ := h
  cases hanswer : runner.client.connection.answer (.jobResult jobId) last with
  | error error =>
    simp only [hanswer, Connection.verdict, Connection.jobOutput, Except.map, conclude,
      jobId?_of_answer hanswer] at hjob hresult hrecord
    have hnone : outcome.record = none := by
      rw [hrecord]
      cases runner.table <;> rfl
    refine ⟨?_, ?_⟩
    · simp [hjob, hanswer]
    · intro other hother
      obtain rfl := Except.error.inj (hanswer.symm.trans hother)
      exact ⟨hjob, hnone, hresult⟩
  | ok job =>
    have hnamed : (conclude (Connection.jobOutput jobId (runner.client.connection.verdict name
        jobId (.ok job)))).1 = some jobId := by
      cases hstatus : job.status
      all_goals simp only [Connection.verdict, hstatus]; rfl
    rw [hanswer, hnamed] at hjob hrecord
    refine ⟨⟨fun _ => ⟨job, hanswer⟩, fun _ => ⟨hjob, ?_⟩⟩, by simp [hanswer]⟩
    intro rows found htable hfound
    rw [hrecord, htable]
    exact recordOf_of_record hfound

/-- A command has started a job: what it heard begins with a reply that names the job. -/
def StartsJob (runner : JobRunner) (command : Command) (submission : Exchange) (jobId : String) :
    Prop :=
  command.isAsync = true ∧ ∃ body,
    runner.client.connection.reply command submission.delivery = .ok body ∧
      Connection.startedJob? body = some jobId

section Told

variable {runner : JobRunner} {commands : List Command} {schedule : Schedule} {world : World σ}
  {heard : Nat → List Exchange} {events : List Event} {crew : Crew σ}

/-- In a batch that came to its end, a command that started a job was answered about it, and the
last answer tells what becomes of the job. -/
theorem exists_namesJob_of_told
    (h : Crew.Told schedule (.initial runner commands schedule world) heard events crew)
    (hover : crew.batch.IsOver schedule false)
    (hunbroken : ∀ k : Nat, crew.batch.stages[k]? ≠ some (Stage.ended none)) {k : Nat}
    {command : Command} {submission : Exchange} {questions : List Exchange} {jobId : String}
    (hcommand : commands[k]? = some command) (hheard : heard k = submission :: questions)
    (hstarts : runner.StartsJob command submission jobId) :
    ∃ outcome url last result,
      (crew.batch.report world.clock commands false).outcomes[k]? = some outcome ∧
      runner.client.connection.questionUrl jobId = .ok url ∧
      runner.client.connection.AnswersAbout command.name jobId url questions last result ∧
      IsMadeOf runner.table (Connection.jobOutput jobId result) outcome := by
  obtain ⟨hasync, body, hbody, hjob⟩ := hstarts
  have htracked := Batch.tracked_of_history (Crew.history_of_runs (Crew.runs_of_told h))
    (Batch.tracked_initial runner commands world)
  have hattentive := Crew.attentive_of_told world.gives_answers h
  obtain ⟨hlt, -⟩ := List.getElem?_eq_some_iff.1 hcommand
  rw [← htracked.length_stages] at hlt
  have hstage := List.getElem?_eq_getElem hlt
  have hended := hover.decided _ (List.getElem_mem hlt)
  have hafter := hattentive.stages k command _ hcommand hstage
  cases hown : crew.batch.stages[k] with
  | ended result =>
    rw [hown] at hstage hafter
    cases result with
    | none => exact absurd hstage (hunbroken k)
    | some outcome =>
      obtain ⟨output, hexecute, hmade⟩ := hears_runOne hafter
      rw [hheard] at hexecute
      obtain ⟨url, last, result, hurl, habout, rfl⟩ :=
        Connection.hears_executeRaw hasync hexecute hbody hjob
      exact ⟨outcome, url, last, result,
        (Batch.isFaithful_of_isOver htracked hover world.clock).kept k outcome hstage, hurl, habout,
        hmade⟩
  | upcoming work => exact absurd hended (by simp [hown, hasEnded])
  | queued work => exact absurd hended (by simp [hown, hasEnded])
  | running wake work => exact absurd hended (by simp [hown, hasEnded])

end Told

/-! ## A job that is answered at once -/

namespace QuickJob

open Session

/-- A world with a server that says the same to every request, at once. -/
def world (reply : String) : World Unit :=
  ⟨⟨0⟩, fun _ _ => (⟨.zero, some (200, reply)⟩, ()), (), .up, fun _ => Fin.last 61, 0, []⟩

/-- The row of the job. -/
def row : JobRow := ⟨"j-1", some 1, none, none⟩

/-- A session's runner with the row of the job. -/
def runner : JobRunner where
  client := bootstrapClient EndlessJob.settings
  table := some [row]
  batchTimeout := .ofSeconds 2

/-- A reply that names the job and says that it has succeeded. -/
def finished : String := "\x7b\"jobid\":\"j-1\",\"jobstatus\":1\x7d"

/-- A reply that names the job and says nothing else, so that it is no answer about it. -/
def unreadable : String := "\x7b\"jobid\":\"j-1\"\x7d"

variable {reply : String} {body : Json}

theorem answers_world {request : Request} {delivery : Delivery} {span : Duration}
    (h : (world reply).answers request delivery span) :
    delivery = .reply 200 reply ∧ span = .zero :=
  World.answers_of_constant rfl (fun _ _ => rfl) (Nat.zero_le _) h

/-- Every command can be written. -/
theorem exists_url (command : Command) :
    ∃ url, Url.parse (runner.client.connection.urlText command) = .ok url := by
  obtain ⟨url, hurl, -⟩ := Url.parse_append_query
    (ManagementSettings.isClosed_endpoint EndlessJob.settings.management)
    (show Url.parse EndlessJob.settings.management.endpoint =
      .ok ⟨"http", "127.0.0.1", some 8080, "/client/api".toList, none, none⟩ from rfl)
    (by
      rw [show EndlessJob.settings.management.endpoint = "http://127.0.0.1:8080/client/api" from
        rfl]
      simp)
  exact ⟨url, hurl⟩

theorem ensures_send {command : Command} (hread : Envelope.decode command.name 200 reply = .ok body)
    (now : Instant) :
    (ExceptT.run (runner.client.connection.send command)).Ensures (world reply).answers
      (fun t result => t = now ∧ result = some (.ok body)) now := by
  obtain ⟨url, hurl⟩ := exists_url command
  rw [Connection.exceptRun_send hurl]
  refine .send fun delivery span hanswer => ?_
  obtain ⟨rfl, rfl⟩ := answers_world hanswer
  exact .done ⟨rfl, congrArg some hread⟩

/-- A reply that decides about the job: the command comes to what it makes of the job. -/
theorem ensures_executeRaw {jobId : String} {answer : Except ClientError Job}
    (hsubmission : Envelope.decode EndlessJob.command.name 200 reply = .ok body)
    (hquestion : Envelope.decode (Call.jobResult jobId).toCommand.name 200 reply = .ok body)
    (hjob : Connection.startedJob? body = some jobId)
    (hanswer : Connection.decoded ((Call.jobResult jobId).decode body) = answer)
    (hdecided : ∀ job, answer = .ok job → job.status ≠ .pending) :
    (ExceptT.run (runner.client.executeRaw EndlessJob.command)).Ensures (world reply).answers
      (fun t output? => t = ⟨0⟩ ∧ output? = some (Connection.jobOutput jobId
        (runner.client.connection.verdict EndlessJob.command.name jobId answer))) ⟨0⟩ := by
  have hquery : ∀ now, (ExceptT.run (runner.client.connection.queryJob jobId)).Ensures
      (world reply).answers (fun t result => t = now ∧ result = some answer) now := by
    intro now
    refine Dialogue.ensures_action_bind (ensures_send hquestion now) ?_ ?_ ?_
    · rintro _ _ ⟨rfl, ⟨⟩⟩
      exact .done ⟨rfl, congrArg some hanswer⟩
    · rintro _ _ ⟨-, ⟨⟩⟩
    · rintro _ ⟨-, ⟨⟩⟩
  have hwait : (ExceptT.run (runner.client.connection.waitForJob EndlessJob.command.name
      jobId)).Ensures (world reply).answers (fun t result => t = ⟨0⟩ ∧ result =
        some (runner.client.connection.verdict EndlessJob.command.name jobId answer)) ⟨0⟩ := by
    refine Dialogue.ensures_instantAfter_bind_of_some (show Instant.later? ⟨0⟩ _ =
      some ⟨1000000000⟩ from rfl) ?_
    refine Dialogue.ensures_action_bind (hquery _) ?_ ?_ ?_
    · rintro _ job ⟨rfl, ⟨⟩⟩
      cases hstatus : job.status with
      | succeeded => exact .done ⟨rfl, by simp only [Connection.verdict, hstatus]⟩
      | failed => exact .done ⟨rfl, by simp only [Connection.verdict, hstatus]⟩
      | pending => exact absurd hstatus (hdecided job rfl)
    · rintro _ error ⟨rfl, ⟨⟩⟩
      exact ⟨rfl, rfl⟩
    · rintro _ ⟨-, ⟨⟩⟩
  refine Dialogue.ensures_action_bind (ensures_send hsubmission _) ?_ ?_ ?_
  · rintro _ _ ⟨rfl, ⟨⟩⟩
    simp only [show EndlessJob.command.isAsync = true from rfl, Bool.not_true, Bool.false_eq_true,
      if_false, hjob]
    refine Dialogue.ensures_action_bind hwait ?_ ?_ ?_
    · rintro _ job ⟨rfl, hverdict⟩
      exact .done ⟨rfl, by rw [← Option.some.inj hverdict]; rfl⟩
    · rintro _ error ⟨rfl, hverdict⟩
      exact ⟨rfl, by rw [← Option.some.inj hverdict]; rfl⟩
    · rintro _ ⟨-, ⟨⟩⟩
  · rintro _ _ ⟨-, ⟨⟩⟩
  · rintro _ ⟨-, ⟨⟩⟩

/-- A batch of one command that comes to something at once, and what is heard in it. -/
theorem exists_told {output : Except ClientError CommandOutput}
    (h : (ExceptT.run (runner.client.executeRaw EndlessJob.command)).Ensures (world reply).answers
      (fun t output? => t = ⟨0⟩ ∧ output? = some output) ⟨0⟩) :
    ∃ schedule heard events crew submission questions outcome,
      runner.schedule? 1 1 .zero ⟨0⟩ = some schedule ∧
      Crew.Told schedule (.initial runner [EndlessJob.command] schedule (world reply)) heard events
        crew ∧
      crew.batch.IsOver schedule false ∧
      (∀ k : Nat, crew.batch.stages[k]? ≠ some (Stage.ended none)) ∧
      (runner.submitAll [EndlessJob.command] 1 (world reply)).1 =
        some (crew.batch.report ⟨0⟩ [EndlessJob.command] false) ∧
      heard 0 = submission :: questions ∧
      (∀ exchange ∈ heard 0, exchange.delivery = .reply 200 reply) ∧
      (crew.batch.report ⟨0⟩ [EndlessJob.command] false).outcomes[0]? = some outcome ∧
      IsMadeOf (some [row]) output outcome := by
  obtain ⟨schedule, hschedule, -⟩ := @exists_schedule _ runner 1 (world reply)
    (show (Instant.later? ⟨0⟩ (.ofSeconds 2)).isSome from by decide) (by decide) 1 .zero
  have hends : ∀ (k : Nat) command, [EndlessJob.command][k]? = some command →
      (ExceptT.run (runner.client.executeRaw command)).Ensures (world reply).answers
        (fun t output? => t = ⟨0⟩ ∧ output? = some output) (world reply).clock := by
    intro k command hcommand
    obtain rfl := List.mem_singleton.1 (List.mem_of_getElem? hcommand)
    exact h
  have hdone := isCutShort_drive_of_ensures hschedule (by decide) (world reply).gives_answers hends
    (by rintro _ _ _ ⟨rfl, -⟩; exact Nat.zero_le _)
  have hended := ended_or_late_of_ensures hschedule (by decide) (world reply).gives_answers hends
    (show 0 < [EndlessJob.command].length from Nat.zero_lt_one)
  obtain ⟨_, _, _, hcame, -, ⟨-, rfl⟩, @⟨_, outcome, hmade⟩⟩ | ⟨-, t, -, hlate, rfl, -⟩ := hended
  · obtain ⟨batch, ⟨events, crew, hruns, -, rfl⟩, hstages, hover, hrun⟩ :=
      Crew.exists_reaches_of_run hschedule
    obtain ⟨heard, htold⟩ := Crew.exists_told_of_runs hruns
    rw [← hstages] at hdone hcame
    rw [hdone] at hover hrun
    have htracked := Batch.tracked_of_history (Crew.history_of_runs hruns)
      (Batch.tracked_initial runner [EndlessJob.command] (world reply))
    have hunbroken : ∀ k : Nat, crew.batch.stages[k]? ≠ some (Stage.ended none) := by
      intro k hk
      have hlt := (List.getElem?_eq_some_iff.1 hk).1
      rw [htracked.length_stages] at hlt
      obtain rfl : k = 0 := Nat.lt_one_iff.1 hlt
      exact absurd (hk.symm.trans hcame) (by simp)
    have hattentive := Crew.attentive_of_told (world reply).gives_answers htold
    obtain ⟨output, hexecute, -⟩ := hears_runOne (hattentive.stages 0 _ _ rfl hcame)
    obtain ⟨url, hurl⟩ := exists_url EndlessJob.command
    obtain ⟨delivery, questions, hheard⟩ := Connection.exists_submission_of_hears hurl hexecute
    refine ⟨schedule, heard, events, crew, _, questions, outcome, hschedule, htold, hover,
      hunbroken, congrArg Prod.fst hrun, hheard, ?_,
      (Batch.isFaithful_of_isOver htracked hover _).kept 0 outcome hcame, hmade⟩
    intro exchange hmem
    obtain ⟨span, hanswer⟩ := hattentive.answered 0 exchange hmem
    exact (answers_world hanswer).1
  · exact absurd hlate (Nat.not_lt_zero _)

end QuickJob

/-- A batch hears what its server says. When it came to its end, each command that started a job was
answered about it, and its outcome names the job, with its row, if and only if the last answer
could be read; otherwise it has neither. -/
theorem jobs_areNamed_iff (runner : JobRunner) (commands : List Command) (workers : Nat)
    (interval : Duration) (world : World σ) {schedule : Schedule}
    (hschedule : runner.schedule? commands.length workers interval world.clock = some schedule) :
    (∃ heard events crew,
      Crew.Told schedule (.initial runner commands schedule world) heard events crew ∧
      crew.batch.stages = (schedule.drive (runner.stagesFrom 0 commands) world).1 ∧
      crew.batch.IsOver schedule (isCutShort crew.batch.stages) ∧
      runner.run commands workers interval world =
        (some (crew.batch.report world.clock commands (isCutShort crew.batch.stages)),
          crew.batch.world)) ∧
    (∀ events (crew : Crew σ),
      Crew.Runs schedule (.initial runner commands schedule world) events crew →
        ∃ heard, Crew.Told schedule (.initial runner commands schedule world) heard events crew) ∧
    ∀ heard events (crew : Crew σ),
      Crew.Told schedule (.initial runner commands schedule world) heard events crew →
      (∀ k, ∀ exchange ∈ heard k, ∃ span,
        world.answers exchange.request exchange.delivery span) ∧
      (crew.batch.IsOver schedule false →
        (∀ k : Nat, crew.batch.stages[k]? ≠ some (Stage.ended none)) →
        ∀ (k : Nat) command submission questions jobId, commands[k]? = some command →
          heard k = submission :: questions → runner.StartsJob command submission jobId →
          ∃ outcome url last result,
            (crew.batch.report world.clock commands false).outcomes[k]? = some outcome ∧
            runner.client.connection.AnswersAbout command.name jobId url questions last result ∧
            runner.NamesJob jobId last outcome) := by
  obtain ⟨batch, ⟨events, crew, hruns, -, rfl⟩, hstages, hover, hrun⟩ :=
    Crew.exists_reaches_of_run hschedule
  obtain ⟨heard, htold⟩ := Crew.exists_told_of_runs hruns
  refine ⟨⟨heard, events, crew, htold, hstages, hover, hrun⟩,
    fun _ _ hruns => Crew.exists_told_of_runs hruns, ?_⟩
  intro heard events crew htold
  refine ⟨(Crew.attentive_of_told world.gives_answers htold).answered, ?_⟩
  intro hover hunbroken k command submission questions jobId hcommand hheard hstarts
  obtain ⟨outcome, url, last, result, houtcome, -, habout, hmade⟩ :=
    exists_namesJob_of_told htold hover hunbroken hcommand hheard hstarts
  refine ⟨outcome, url, last, result, houtcome, habout, ?_⟩
  rw [habout.result] at hmade
  exact namesJob_of_isMadeOf hmade

section QuickJobs

open QuickJob

/-- A job that has succeeded when it is first asked about is named, with its row. -/
theorem exists_named_job :
    ∃ report outcome,
      (QuickJob.runner.submitAll [EndlessJob.command] 1 (QuickJob.world finished)).1 =
        some report ∧
      report.outcomes[0]? = some outcome ∧ outcome.jobId = some "j-1" ∧
      outcome.record = some ⟨1, none, none⟩ := by
  obtain ⟨schedule, heard, events, crew, submission, questions, outcome, hschedule, htold, hover,
    hunbroken, hrun, hheard, hreplies, -, -⟩ := exists_told (ensures_executeRaw
      (show Envelope.decode EndlessJob.command.name 200 finished =
        .ok (.obj [("jobid", .str "j-1"), ("jobstatus", .num (.whole 1))]) from rfl) rfl rfl rfl
      (by rintro _ ⟨⟩; simp))
  have hstarts : QuickJob.runner.StartsJob EndlessJob.command submission "j-1" := by
    obtain ⟨url, hurl⟩ := exists_url EndlessJob.command
    refine ⟨rfl, .obj [("jobid", .str "j-1"), ("jobstatus", .num (.whole 1))], ?_, rfl⟩
    rw [hreplies submission (by rw [hheard]; exact List.mem_cons_self ..)]
    simp only [Connection.reply, hurl]
    rfl
  obtain ⟨outcome, url, last, result, houtcome, habout, hnames⟩ :=
    ((jobs_areNamed_iff QuickJob.runner [EndlessJob.command] 1 .zero (QuickJob.world finished)
      hschedule).2.2 heard events crew htold).2 hover hunbroken 0 EndlessJob.command submission
        questions "j-1" rfl hheard hstarts
  -- the last answer about the job is the reply of the server
  obtain ⟨earlier, hquestions, -⟩ := habout.exchanges
  have hlast : last = .reply 200 finished :=
    hreplies (QuickJob.runner.client.connection.exchange url last) (by
      rw [hheard, hquestions]
      exact List.mem_cons_of_mem _ (List.mem_append_right _ (List.mem_singleton.2 rfl)))
  obtain ⟨hjob, hrecord⟩ := hnames.kept_iff.2 (by
    obtain ⟨own, hown⟩ := exists_url (Call.jobResult "j-1").toCommand
    refine ⟨⟨"j-1", .succeeded, none, none, none, none, none⟩, ?_⟩
    simp only [hlast, Connection.answer, Connection.reply, hown]
    rfl)
  exact ⟨_, outcome, hrun, houtcome, hjob, hrecord [row] _ rfl rfl⟩

/-- A job whose first answer cannot be read is lost: it was named in the reply to the submission and
has a row, and the outcome has neither. -/
theorem exists_lost_job :
    ∃ schedule heard events crew submission questions outcome,
      Crew.Told schedule (.initial QuickJob.runner [EndlessJob.command] schedule
        (QuickJob.world unreadable)) heard events crew ∧
      crew.batch.IsOver schedule false ∧
      (∀ k : Nat, crew.batch.stages[k]? ≠ some (Stage.ended none)) ∧
      (QuickJob.runner.submitAll [EndlessJob.command] 1 (QuickJob.world unreadable)).1 =
        some (crew.batch.report ⟨0⟩ [EndlessJob.command] false) ∧
      heard 0 = submission :: questions ∧
      QuickJob.runner.StartsJob EndlessJob.command submission "j-1" ∧
      (∃ rows, QuickJob.runner.table = some rows ∧
        rows.record "j-1" = .ok (some ⟨1, none, none⟩)) ∧
      (crew.batch.report ⟨0⟩ [EndlessJob.command] false).outcomes[0]? = some outcome ∧
      outcome.jobId = none ∧ outcome.record = none ∧
      outcome.result = .failed "Serialization error: missing field `jobstatus`" := by
  obtain ⟨schedule, heard, events, crew, submission, questions, outcome, -, htold, hover,
    hunbroken, hrun, hheard, hreplies, houtcome, hmade⟩ := exists_told (ensures_executeRaw
      (show Envelope.decode EndlessJob.command.name 200 unreadable =
        .ok (.obj [("jobid", .str "j-1")]) from rfl) rfl rfl rfl
      (by rintro _ ⟨⟩))
  refine ⟨schedule, heard, events, crew, submission, questions, outcome, htold, hover, hunbroken,
    hrun, hheard, ⟨rfl, .obj [("jobid", .str "j-1")], ?_, rfl⟩, ⟨[row], rfl, rfl⟩, houtcome,
    hmade.jobId, hmade.record, hmade.result⟩
  obtain ⟨url, hurl⟩ := exists_url EndlessJob.command
  rw [hreplies submission (by rw [hheard]; exact List.mem_cons_self ..)]
  simp only [Connection.reply, hurl]
  rfl

end QuickJobs

end JobRunner

end ControlPlane
