import ControlPlane.Proofs.StartedJobs
import ControlPlane.Session

/-!
# Deleting an account

The deletion of an account is a job. It has succeeded only if the server says so twice: the last
answer about the job is that it has succeeded, and its result is a report of success.

`Connection.Confirmed` are the attempts of a deletion that reports success, and
`Connection.Unconfirmed` are those of one that does not, with the error it ends with. Main
statement: in every world a deletion is asked for once, all else is questions about the job that the
reply names, and the attempts decide between success and each of the errors
(`Client.deletes_deleteAccount`).
-/

namespace ControlPlane

/-! ## Reports -/

namespace SuccessReport

/-- A report says that something succeeded: by a truth value, or by the word for it, whatever the
case of its letters. -/
def SaysSuccess (report : SuccessReport) : Prop :=
  report.success = some (.bool true) ∨
    ∃ word, report.success = some (.str word) ∧ word.toList.map Char.toLower = "true".toList

theorem isSuccess_iff (report : SuccessReport) : report.isSuccess = true ↔ report.SaysSuccess := by
  unfold isSuccess SaysSuccess
  split
  · rename_i b hsuccess
    simp [hsuccess]
  · rename_i word hsuccess
    simp [hsuccess, isSameWord]
  · rename_i hbool hstr
    constructor
    · exact nofun
    · rintro (hsuccess | ⟨word, hsuccess, -⟩)
      · exact absurd hsuccess (hbool true)
      · exact absurd hsuccess (hstr word)

end SuccessReport

namespace Connection

variable {σ : Type} {connection : Connection} {id jobId : String}

/-! ## Success and errors -/

/-- A reply names a job, by a text or by a number. -/
def Names (body : Json) (jobId : String) : Prop :=
  body.get? "jobid" = some (.str jobId) ∨ ∃ n, body.get? "jobid" = some (.num n) ∧ n.text = jobId

theorem names_iff {body : Json} : Names body jobId ↔ startedJob? body = some jobId := by
  unfold Names startedJob?
  split
  · rename_i text hid
    simp [hid]
  · rename_i n hid
    simp [hid]
  · rename_i hstr hnum
    simp only [reduceCtorEq, iff_false]
    rintro (hid | ⟨n, hid, -⟩)
    · exact hstr jobId hid
    · exact hnum n hid

/-- An answer about a job says that it has succeeded, and has a report of success as its result. -/
def Confirms (connection : Connection) (jobId : String) (answer : Delivery) : Prop :=
  ∃ job value report, connection.answer (.jobResult jobId) answer = .ok job ∧
    job.status = .succeeded ∧ job.result = some value ∧ SuccessReport.ofJson value = .ok report ∧
    report.SaysSuccess

/-- The attempts of a deletion that reports success: a reply that names a job, answers that it goes
on, and one that confirms the deletion. -/
def Confirmed (connection : Connection) (id : String) (attempts : List Attempt) : Prop :=
  ∃ submission body jobId earlier last,
    attempts = ⟨.deleteAccount id, submission⟩ :: questions jobId (earlier ++ [last]) ∧
    connection.reply (Call.deleteAccount id).toCommand submission = .ok body ∧ Names body jobId ∧
    (∀ answer ∈ earlier, connection.GoesOn jobId answer) ∧ connection.Confirms jobId last

/-- The error that a deletion ends with after the last answer about its job. -/
inductive Denies (connection : Connection) (id jobId : String) (answer : Delivery) :
    ClientError → Prop
  | unread {error : ClientError} (h : connection.answer (.jobResult jobId) answer = .error error) :
    Denies connection id jobId answer error
  | overdue {job : Job} (h : connection.answer (.jobResult jobId) answer = .ok job)
    (hstatus : job.status = .pending) :
    Denies connection id jobId answer (connection.jobOverdue "deleteAccount" jobId)
  | failed {job : Job} (h : connection.answer (.jobResult jobId) answer = .ok job)
    (hstatus : job.status = .failed) :
    Denies connection id jobId answer (jobFailure jobId job)
  | unreported {job : Job} (h : connection.answer (.jobResult jobId) answer = .ok job)
    (hstatus : job.status = .succeeded) (hresult : job.result = none) :
    Denies connection id jobId answer (Client.deletionUnconfirmed id)
  | noReport {job : Job} {value : Json} {fault : Json.DecodeError}
    (h : connection.answer (.jobResult jobId) answer = .ok job) (hstatus : job.status = .succeeded)
    (hresult : job.result = some value) (hreport : SuccessReport.ofJson value = .error fault) :
    Denies connection id jobId answer (.serialization fault)
  | reported {job : Job} {value : Json} {report : SuccessReport}
    (h : connection.answer (.jobResult jobId) answer = .ok job) (hstatus : job.status = .succeeded)
    (hresult : job.result = some value) (hreport : SuccessReport.ofJson value = .ok report)
    (hsuccess : ¬ report.SaysSuccess) :
    Denies connection id jobId answer (Client.deletionUnconfirmed id)

/-- The attempts of a deletion that does not report success, and the error it ends with. -/
inductive Unconfirmed (connection : Connection) (id : String) : List Attempt → ClientError → Prop
  | refused {submission : Delivery} {error : ClientError}
    (h : connection.reply (Call.deleteAccount id).toCommand submission = .error error) :
    Unconfirmed connection id [⟨.deleteAccount id, submission⟩] error
  | unnamed {submission : Delivery} {body : Json}
    (h : connection.reply (Call.deleteAccount id).toCommand submission = .ok body)
    (hjob : ∀ jobId, ¬ Names body jobId) :
    Unconfirmed connection id [⟨.deleteAccount id, submission⟩] (jobUnnamed "deleteAccount")
  | denied {submission : Delivery} {body : Json} {jobId : String} (earlier : List Delivery)
    {last : Delivery} {error : ClientError}
    (h : connection.reply (Call.deleteAccount id).toCommand submission = .ok body)
    (hjob : Names body jobId) (hearlier : ∀ answer ∈ earlier, connection.GoesOn jobId answer)
    (hlast : connection.Denies id jobId last error) :
    Unconfirmed connection id
      (⟨.deleteAccount id, submission⟩ :: questions jobId (earlier ++ [last])) error

/-! ## The last answer decides -/

/-- What a deletion makes of the output of its command. -/
def confirmation (id : String) : Except ClientError CommandOutput → Except ClientError Unit
  | .error error => .error error
  | .ok output =>
    match SuccessReport.ofJson output.body with
    | .error fault => .error (.serialization fault)
    | .ok report => if report.isSuccess then .ok () else .error (Client.deletionUnconfirmed id)

/-- What a deletion makes of the last answer about its job. -/
def conclusion (connection : Connection) (id jobId : String) (last : Delivery) :
    Except ClientError Unit :=
  confirmation id <| jobOutput jobId <|
    connection.verdict "deleteAccount" jobId (connection.answer (.jobResult jobId) last)

theorem conclusion_of_succeeded {last : Delivery} {job : Job}
    (h : connection.answer (.jobResult jobId) last = .ok job) (hstatus : job.status = .succeeded) :
    connection.conclusion id jobId last =
      confirmation id (.ok ⟨some jobId, job.result.getD (.obj [])⟩) := by
  simp only [conclusion, h, verdict, hstatus, jobOutput, Except.map]

theorem conclusion_of_confirms {last : Delivery} (h : connection.Confirms jobId last) :
    connection.conclusion id jobId last = .ok () := by
  obtain ⟨job, value, report, hanswer, hstatus, hresult, hreport, hsuccess⟩ := h
  rw [conclusion_of_succeeded hanswer hstatus, hresult]
  simp only [confirmation, Option.getD_some, hreport, report.isSuccess_iff.2 hsuccess, if_true]

theorem conclusion_of_denies {last : Delivery} {error : ClientError}
    (h : connection.Denies id jobId last error) :
    connection.conclusion id jobId last = .error error := by
  cases h with
  | unread h => simp only [conclusion, h, verdict, jobOutput, Except.map, confirmation]
  | overdue h hstatus =>
    simp only [conclusion, h, verdict, hstatus, jobOutput, Except.map, confirmation]
  | failed h hstatus =>
    simp only [conclusion, h, verdict, hstatus, jobOutput, Except.map, confirmation]
  | unreported h hstatus hresult =>
    rw [conclusion_of_succeeded h hstatus, hresult]
    rfl
  | noReport h hstatus hresult hreport =>
    rw [conclusion_of_succeeded h hstatus, hresult]
    simp only [confirmation, Option.getD_some, hreport]
  | reported h hstatus hresult hreport hsuccess =>
    rw [conclusion_of_succeeded h hstatus, hresult]
    simp only [confirmation, Option.getD_some, hreport,
      mt (SuccessReport.isSuccess_iff _).1 hsuccess]
    rfl

theorem confirms_or_denies (connection : Connection) (id jobId : String) (last : Delivery) :
    connection.Confirms jobId last ∨ ∃ error, connection.Denies id jobId last error := by
  cases hanswer : connection.answer (.jobResult jobId) last with
  | error error => exact .inr ⟨error, .unread hanswer⟩
  | ok job =>
    cases hstatus : job.status with
    | pending => exact .inr ⟨_, .overdue hanswer hstatus⟩
    | failed => exact .inr ⟨_, .failed hanswer hstatus⟩
    | succeeded =>
      cases hresult : job.result with
      | none => exact .inr ⟨_, .unreported hanswer hstatus hresult⟩
      | some value =>
        cases hreport : SuccessReport.ofJson value with
        | error fault => exact .inr ⟨_, .noReport hanswer hstatus hresult hreport⟩
        | ok report =>
          by_cases hsuccess : report.SaysSuccess
          · exact .inl ⟨job, value, report, hanswer, hstatus, hresult, hreport, hsuccess⟩
          · exact .inr ⟨_, .reported hanswer hstatus hresult hreport hsuccess⟩

/-! ## The attempts decide -/

theorem exists_starts_of_confirmed {attempts : List Attempt}
    (h : connection.Confirmed id attempts) :
    ∃ output, Protocol.Starts connection (.deleteAccount id) attempts output ∧
      confirmation id output = .ok () := by
  obtain ⟨submission, body, jobId, earlier, last, rfl, hreply, hjob, hearlier, hlast⟩ := h
  exact ⟨_, .watched hreply (names_iff.1 hjob) (.intro earlier last hearlier),
    conclusion_of_confirms hlast⟩

theorem exists_starts_of_unconfirmed {attempts : List Attempt} {error : ClientError}
    (h : connection.Unconfirmed id attempts error) :
    ∃ output, Protocol.Starts connection (.deleteAccount id) attempts output ∧
      confirmation id output = .error error := by
  cases h with
  | refused h => exact ⟨_, .refused h, rfl⟩
  | unnamed h hjob =>
    refine ⟨_, .unnamed h ?_, rfl⟩
    rw [Option.eq_none_iff_forall_ne_some]
    exact fun jobId hid => hjob jobId (names_iff.2 hid)
  | denied earlier h hjob hearlier hlast =>
    exact ⟨_, .watched h (names_iff.1 hjob) (.intro earlier _ hearlier), conclusion_of_denies hlast⟩

theorem confirmed_or_unconfirmed {attempts : List Attempt}
    {output : Except ClientError CommandOutput}
    (h : Protocol.Starts connection (.deleteAccount id) attempts output) :
    connection.Confirmed id attempts ∨ ∃ error, connection.Unconfirmed id attempts error := by
  cases h with
  | refused h => exact .inr ⟨_, .refused h⟩
  | unnamed h hjob =>
    refine .inr ⟨_, .unnamed h ?_⟩
    intro jobId hid
    exact absurd (hjob.symm.trans (names_iff.1 hid)) (by simp)
  | watched h hjob hwatches =>
    obtain ⟨earlier, last, hearlier⟩ := hwatches
    rcases connection.confirms_or_denies id _ last with hlast | ⟨error, hlast⟩
    · exact .inl ⟨_, _, _, earlier, last, rfl, h, names_iff.2 hjob, hearlier, hlast⟩
    · exact .inr ⟨error, .denied earlier h (names_iff.2 hjob) hearlier hlast⟩

/-- The attempts of a deletion decide between success and an error. -/
theorem confirmation_iff_of_starts {attempts : List Attempt}
    {output : Except ClientError CommandOutput}
    (h : Protocol.Starts connection (.deleteAccount id) attempts output) :
    (confirmation id output = .ok () ↔ connection.Confirmed id attempts) ∧
      ∀ error, confirmation id output = .error error ↔
        connection.Unconfirmed id attempts error := by
  have hconfirmed : connection.Confirmed id attempts → confirmation id output = .ok () := by
    intro hconfirmed
    obtain ⟨output', hstarts, houtput⟩ := exists_starts_of_confirmed hconfirmed
    rwa [Protocol.starts_unique h hstarts]
  have hunconfirmed : ∀ error, connection.Unconfirmed id attempts error →
      confirmation id output = .error error := by
    intro error hunconfirmed
    obtain ⟨output', hstarts, houtput⟩ := exists_starts_of_unconfirmed hunconfirmed
    rwa [Protocol.starts_unique h hstarts]
  rcases confirmed_or_unconfirmed h with hsuccess | ⟨error, herror⟩
  · have hok := hconfirmed hsuccess
    refine ⟨⟨fun _ => hsuccess, hconfirmed⟩, fun error => ⟨?_, hunconfirmed error⟩⟩
    intro herror
    exact absurd (hok.symm.trans herror) (by simp)
  · have hfails := hunconfirmed error herror
    refine ⟨⟨?_, hconfirmed⟩, fun other => ⟨?_, hunconfirmed other⟩⟩
    · intro hok
      exact absurd (hok.symm.trans hfails) (by simp)
    · intro hother
      rwa [← Except.error.inj (hfails.symm.trans hother)]

/-- What is confirmed is not left open, whatever the clock shows. -/
theorem not_leftOpen_of_confirmed {attempts : List Attempt} {clock : Instant}
    (h : connection.Confirmed id attempts) :
    ¬ connection.LeftOpen (Call.deleteAccount id) attempts clock := by
  obtain ⟨submission, body, jobId, earlier, last, rfl, hreply, hjob, -, hlast⟩ := h
  intro hopen
  obtain ⟨body', jobId', answers, hanswers, hbody, hnamed, hcases⟩ := hopen.of_cons
  obtain rfl := Except.ok.inj (hreply.symm.trans hbody)
  obtain rfl := Option.some.inj ((names_iff.1 hjob).symm.trans hnamed)
  obtain rfl := Protocol.questions_injective hanswers
  obtain ⟨job, value, report, hanswer, hstatus, -⟩ := hlast
  rcases hcases with ⟨hnone, -⟩ | hinterrupted
  · exact absurd hnone (by simp)
  · obtain ⟨job', hanswer', hpending⟩ := hinterrupted.goesOn last (by simp)
    obtain rfl := Except.ok.inj (hanswer.symm.trans hanswer')
    exact absurd (hstatus.symm.trans hpending) (by simp)

/-! ## Deletions -/

/-- What a deletion consists of and how it ends; without an ending it has broken off. -/
structure Deletion (connection : Connection) (id : String) (attempts : List Attempt)
    (ending : Option (Except ClientError Unit)) (clock : Instant) : Prop where
  once : ∃ submission questions, attempts = ⟨.deleteAccount id, submission⟩ :: questions ∧
    ∀ question ∈ questions, ∃ body jobId answer,
      connection.reply (Call.deleteAccount id).toCommand submission = .ok body ∧
      Names body jobId ∧ question = ⟨.jobResult jobId, answer⟩
  sent : ∀ url, Url.parse (connection.urlText (Call.deleteAccount id).toCommand) = .ok url →
    ∀ attempt ∈ attempts, ∃ url, connection.exchanged attempt =
      [⟨⟨url, connection.requestTimeout⟩, attempt.delivery⟩]
  unsent : ∀ fault,
    Url.parse (connection.urlText (Call.deleteAccount id).toCommand) = .error fault →
      attempts.flatMap connection.exchanged = [] ∧ ending = some (.error (.http (.badUrl fault)))
  succeeds_iff : ending = some (.ok ()) ↔ connection.Confirmed id attempts
  fails_iff : ∀ error, ending = some (.error error) ↔
    connection.Unconfirmed id attempts error ∧
      ¬ connection.LeftOpen (Call.deleteAccount id) attempts clock
  brokenOff_iff : ending = none ↔ connection.LeftOpen (Call.deleteAccount id) attempts clock

/-- In every world, an action deletes an account. -/
def Deletes (connection : Connection) (id : String) (action : Action Unit) : Prop :=
  ∀ (σ : Type) (world : World σ), ∃ attempts,
    (ExceptT.run action).exchanges world = attempts.flatMap connection.exchanged ∧
      connection.Deletion id attempts (action.run world).1 (action.run world).2.clock

/-- All that follows the submission of a command is questions about its job. -/
theorem exists_questions_of_starts {α : Type} {call : Call α} {attempts : List Attempt}
    {output : Except ClientError CommandOutput}
    (h : Protocol.Starts connection call attempts output) :
    ∃ submission questions, attempts = ⟨call, submission⟩ :: questions ∧
      ∀ question ∈ questions, ∃ body jobId answer,
        connection.reply call.toCommand submission = .ok body ∧ Names body jobId ∧
          question = ⟨.jobResult jobId, answer⟩ := by
  cases h with
  | refused h => exact ⟨_, [], rfl, nofun⟩
  | unnamed h hjob => exact ⟨_, [], rfl, nofun⟩
  | watched h hjob hwatches =>
    refine ⟨_, _, rfl, ?_⟩
    obtain ⟨earlier, last, -⟩ := hwatches
    intro question hmem
    obtain ⟨answer, -, rfl⟩ := List.mem_map.1 hmem
    exact ⟨_, _, answer, h, names_iff.2 hjob, rfl⟩

/-- Nothing is sent of a command that cannot be written. -/
theorem flatMap_exchanged_of_starts {α : Type} {call : Call α} {attempts : List Attempt}
    {output : Except ClientError CommandOutput} {fault : Url.Fault}
    (h : Protocol.Starts connection call attempts output)
    (hfault : Url.parse (connection.urlText call.toCommand) = .error fault) :
    attempts.flatMap connection.exchanged = [] ∧ output = .error (.http (.badUrl fault)) := by
  have hreply : ∀ delivery, connection.reply call.toCommand delivery =
      .error (.http (.badUrl fault)) := by
    intro delivery
    rw [reply, hfault]
  cases h with
  | refused h =>
    rw [hreply] at h
    refine ⟨?_, congrArg _ (Except.error.inj h).symm⟩
    simp only [List.flatMap_cons, exchanged, hfault, List.flatMap_nil, List.append_nil]
  | unnamed h => exact absurd ((hreply _).symm.trans h) (by simp)
  | watched h => exact absurd ((hreply _).symm.trans h) (by simp)

end Connection

namespace Client

variable {σ : Type} {client : Client} {id : String} {world world' : World σ}
  {attempts : List Attempt}

open Connection

/-- A deletion consists of its command, whose output it checks. -/
theorem conducts_deleteAccount {output : Except ClientError CommandOutput}
    (h : client.connection.Conducts
      (ExceptT.run (client.connection.executeRaw (Call.deleteAccount id).toCommand)) world attempts
      output world') :
    client.connection.Conducts (ExceptT.run (client.deleteAccount id)) world attempts
      (confirmation id output) world' := by
  cases output with
  | error error => exact conducts_bind_error (conducts_bind_error h)
  | ok output =>
    have hexecute : client.connection.Conducts
        (ExceptT.run (client.execute (Call.deleteAccount id))) world attempts
        (decoded (SuccessReport.ofJson output.body)) world' :=
      conducts_bind_silent h (conducts_done _ _ world')
    cases hreport : SuccessReport.ofJson output.body with
    | error fault =>
      rw [hreport] at hexecute
      simp only [confirmation, hreport]
      exact conducts_bind_error hexecute
    | ok report =>
      rw [hreport] at hexecute
      refine conducts_bind_silent hexecute ?_
      simp only [confirmation, hreport]
      cases report.isSuccess with
      | true => exact conducts_done _ _ world'
      | false => exact conducts_done _ _ world'

theorem deletion_of_starts {output : Except ClientError CommandOutput} {clock : Instant}
    (h : Protocol.Starts client.connection (.deleteAccount id) attempts output)
    (hended : ¬ client.connection.LeftOpen (Call.deleteAccount id) attempts clock) :
    client.connection.Deletion id attempts (some (confirmation id output)) clock := by
  obtain ⟨hsucceeds, hfails⟩ := confirmation_iff_of_starts h
  refine ⟨exists_questions_of_starts h, ?_, ?_, ?_, ?_, iff_of_false (by simp) hended⟩
  · intro url hurl attempt _
    exact exists_exchanged_of_parse hurl attempt
  · intro fault hfault
    obtain ⟨hsilent, rfl⟩ := flatMap_exchanged_of_starts h hfault
    exact ⟨hsilent, rfl⟩
  · rw [Option.some.injEq, hsucceeds]
  · intro error
    rw [Option.some.injEq, hfails, and_iff_left hended]

/-- A deletion that is left open has been asked for, and is not confirmed. -/
theorem deletion_of_leftOpen {clock : Instant}
    (h : client.connection.LeftOpen (Call.deleteAccount id) attempts clock) :
    client.connection.Deletion id attempts none clock := by
  have hopen := h
  obtain ⟨submission, body, jobId, answers, rfl, hreply, hjob, -⟩ := h
  refine ⟨⟨submission, _, rfl, ?_⟩, ?_, ?_, ?_, ?_, iff_of_true rfl hopen⟩
  · intro question hmem
    obtain ⟨answer, -, rfl⟩ := List.mem_map.1 hmem
    exact ⟨body, jobId, answer, hreply, names_iff.2 hjob, rfl⟩
  · intro url hurl attempt _
    exact exists_exchanged_of_parse hurl attempt
  · intro fault hfault
    rw [reply, hfault] at hreply
    exact absurd hreply (by simp)
  · exact iff_of_false (by simp) fun hconfirmed => not_leftOpen_of_confirmed hconfirmed hopen
  · intro error
    exact iff_of_false (by simp) fun hfails => hfails.2 hopen

/-- An account is deleted by one command, which names it, and all else that is sent is questions
about the job that the reply names. The deletion reports success if and only if the reply names a
job, all answers but the last say that it goes on, and the last is that it has succeeded with a
report of success; otherwise it ends with the error that the attempts give, unless it breaks off
because the clock cannot represent the time until which the job is waited for or that of the next
question. The account of a fixture is deleted in the same way. -/
theorem deletes_deleteAccount (client : Client) (id : String) :
    (Call.deleteAccount id).toCommand = ⟨"deleteAccount", true, [("id", id)]⟩ ∧
      client.connection.Deletes id (client.deleteAccount id) ∧
      ∀ (session : Session) (fixture : Fixture), session.client.connection.Deletes
        fixture.credentials.account.id (fixture.teardown session) := by
  have hdeletes : ∀ (client : Client) (id : String),
      client.connection.Deletes id (client.deleteAccount id) := by
    intro client id σ world
    rcases client.connection.exists_starts_executeRaw (Call.deleteAccount id) rfl world with
      ⟨attempts, output, world', hconducts, hstarts, hended⟩ | ⟨attempts, world', hbroken, hopen⟩
    · have hdelete := conducts_deleteAccount hconducts
      refine ⟨attempts, hdelete.exchanges, ?_⟩
      rw [show (client.deleteAccount id).run world = _ from hdelete.run]
      exact deletion_of_starts hstarts hended
    · have hdelete : client.connection.BreaksOff (ExceptT.run (client.deleteAccount id)) world
          attempts world' := breaksOff_bind (breaksOff_bind hbroken _) _
      refine ⟨attempts, hdelete.exchanges, ?_⟩
      rw [show (client.deleteAccount id).run world = _ from hdelete.run]
      exact deletion_of_leftOpen hopen
  refine ⟨rfl, hdeletes client id, ?_⟩
  intro session fixture
  exact hdeletes session.apiClient fixture.credentials.account.id

end Client

end ControlPlane
