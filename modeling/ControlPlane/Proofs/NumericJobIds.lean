import ControlPlane.Proofs.BatchJobs
import ControlPlane.Proofs.RecordFields
import ControlPlane.Proofs.StartedJobs

/-!
# Jobs whose ids are numbers

The reply to a submission may name its job by a number or by text. An answer about the job is a
record whose id is text; with a number it cannot be read (`Respelled.exists_error`).

`Connection.Twins` are two worlds that are the same, but for the spelling of the id in all replies.
Main statement: a command that starts a job is asked and answered alike in both until the first
answer about the job. With the number it ends there with an error, so it does the same in both if
and only if this answer, if there is one, is the same error with the text
(`Connection.executeRaw_sameIn_iff`). A job that has succeeded is lost in this way
(`Connection.exists_job_lost_by_number`).
-/

namespace ControlPlane

/-! ## Requests -/

namespace Dialogue

variable {α β σ : Type}

/-- The requests of a dialogue in a world, the first first. -/
def requests (d : Dialogue α) (world : World σ) : List Request :=
  (d.exchanges world).map Exchange.request

end Dialogue

namespace Action

variable {α β σ : Type} {action : Action α} {f : α → Action β} {world world' : World σ}

/-- The requests of an action in a world. -/
def requests (action : Action α) (world : World σ) : List Request :=
  (ExceptT.run action).requests world

theorem requests_bind_ok {a : α} (h : action.run world = (some (.ok a), world')) :
    (action >>= f).requests world = action.requests world ++ (f a).requests world' := by
  have hbind := Dialogue.exchanges_bind h (ExceptT.bindCont f)
  exact (congrArg (List.map Exchange.request) hbind).trans List.map_append

theorem requests_bind_error {error : ClientError}
    (h : action.run world = (some (.error error), world')) :
    (action >>= f).requests world = action.requests world := by
  have hbind := Dialogue.exchanges_bind h (ExceptT.bindCont f)
  refine (congrArg (List.map Exchange.request) hbind).trans ?_
  rw [List.map_append]
  exact List.append_nil _

theorem requests_bind_none (h : action.run world = (none, world')) :
    (action >>= f).requests world = action.requests world :=
  congrArg (List.map Exchange.request)
    (Dialogue.exchanges_bind_of_broken (congrArg Prod.fst h) (ExceptT.bindCont f))

/-- Nothing is requested to make something of a value. -/
theorem requests_bind_ofExcept (action : Action α) (g : α → Except ClientError β)
    (world : World σ) :
    (action >>= fun a => ofExcept (g a)).requests world = action.requests world := by
  rcases hrun : action.run world with ⟨_ | _ | a, world'⟩
  · exact requests_bind_none hrun
  · exact requests_bind_error hrun
  · exact (requests_bind_ok hrun).trans (List.append_nil _)

end Action

/-- An action sends the same requests in two worlds, and ends in the same way. -/
structure Action.SameIn {α σ : Type} (action : Action α) (world world' : World σ) : Prop where
  requests : action.requests world' = action.requests world
  ending : (action.run world').1 = (action.run world).1

/-! ## Replies that differ in an id -/

namespace Job

open Json FieldReader

/-- The fields of a job. -/
def reader : FieldReader Job :=
  Job.mk <$> .required "jobid" decodeText <*> .required "jobstatus" JobStatus.ofJson
    <*> .optional "jobresultcode" decodeSigned64 <*> .optional "jobresulttype" decodeText
    <*> .optional "jobresult" raw <*> .optional "cmd" decodeText
    <*> .optional "created" decodeText

theorem ofJson_eq : ofJson = shape.decode .refused reader := rfl

variable {look look' : String → Option Json} {x : JsonNumber} {job : Job}

/-- The id of a job is not read from a number. -/
theorem reader_ne_ok (h : look "jobid" = some (.num x)) : reader look ≠ .ok job := by
  intro hread
  simp only [reader, seq_eq_ok, map_eq_ok] at hread
  obtain ⟨_, _, ⟨_, _, ⟨_, _, ⟨_, _, ⟨_, _, ⟨_, _, ⟨id, hid, -⟩, -⟩, -⟩, -⟩, -⟩, -⟩, -⟩ := hread
  simp only [required, h, decodeText, report] at hid
  exact absurd hid (by simp)

/-- A job that could be read if its id were no number has no other problem. -/
theorem reader_eq_error (h : look "jobid" = some (.num x))
    (hrest : ∀ name, name ≠ "jobid" → look' name = look name) (hread : reader look' = .ok job) :
    reader look = .error [("jobid", .bad (.wrongType (.num x) "a string"))] := by
  simp only [reader, seq_eq_ok, map_eq_ok] at hread
  obtain ⟨_, _, ⟨_, _, ⟨_, _, ⟨_, _, ⟨_, _, ⟨_, _, -, hstatus, -⟩, hcode, -⟩, htype, -⟩, hresult,
    -⟩, hcommand, -⟩, hcreated, -⟩ := hread
  have hid : required "jobid" decodeText look =
      .error [("jobid", .bad (.wrongType (.num x) "a string"))] := by
    simp only [required, h]
    rfl
  rw [required_congr (hrest "jobstatus" (by decide))] at hstatus
  rw [optional_congr (hrest "jobresultcode" (by decide))] at hcode
  rw [optional_congr (hrest "jobresulttype" (by decide))] at htype
  rw [optional_congr (hrest "jobresult" (by decide))] at hresult
  rw [optional_congr (hrest "cmd" (by decide))] at hcommand
  rw [optional_congr (hrest "created" (by decide))] at hcreated
  exact seq_eq_error (seq_eq_error (seq_eq_error (seq_eq_error (seq_eq_error (seq_eq_error
    (map_eq_error hid) hstatus) hcode) htype) hresult) hcommand) hcreated

end Job

/-- One reply with the id of a job as a number, and again with the id as text. -/
structure Respelled (n : Int) (body body' : Json) : Prop where
  number : body.get? "jobid" = some (.num (.whole n))
  text : body'.get? "jobid" = some (.str (Number.intText n))
  rest : ∀ name, name ≠ "jobid" → body'.get? name = body.get? name

namespace Respelled

variable {n : Int} {body body' : Json}

/-- Both replies to a submission name the same job. -/
theorem startedJob? (h : Respelled n body body') :
    Connection.startedJob? body = some (Number.intText n) ∧
      Connection.startedJob? body' = some (Number.intText n) := by
  refine ⟨?_, ?_⟩
  · simp only [Connection.startedJob?, h.number]
    rfl
  · simp only [Connection.startedJob?, h.text]

theorem exists_members (h : Respelled n body body') :
    ∃ members members', body = .obj members ∧ body' = .obj members' := by
  have hobject : ∀ {value found : Json} {name : String}, value.get? name = some found →
      ∃ members, value = .obj members := by
    intro value found name hfound
    cases value with
    | obj members => exact ⟨members, rfl⟩
    | null | bool | num | str | arr => exact absurd hfound (by simp [Json.get?])
  obtain ⟨members, rfl⟩ := hobject h.number
  obtain ⟨members', rfl⟩ := hobject h.text
  exact ⟨members, members', rfl, rfl⟩

/-- An answer about a job that has a number as its id cannot be read. -/
theorem exists_error (h : Respelled n body body') : ∃ fault, Job.ofJson body = .error fault := by
  obtain ⟨members, -, rfl, -⟩ := h.exists_members
  cases hjob : Job.ofJson (.obj members) with
  | error fault => exact ⟨fault, rfl⟩
  | ok job => exact absurd (Json.Shape.decode_obj_eq_ok.1 hjob) (Job.reader_ne_ok h.number)

/-- If the other answer is read, then what is wrong is the number. -/
theorem error_of_ok (h : Respelled n body body') {job : Job} (hjob : Job.ofJson body' = .ok job) :
    Job.ofJson body = .error (.wrongType (.num (.whole n)) "a string") := by
  obtain ⟨members, members', rfl, rfl⟩ := h.exists_members
  rw [Job.ofJson_eq] at hjob ⊢
  exact Json.Shape.decode_obj_of_error
    (Job.reader_eq_error h.number h.rest (Json.Shape.decode_obj_eq_ok.1 hjob))

end Respelled

/-! ## Servers that differ in how they write an id -/

/-- What two replies to a command come to: the same, but for the spelling of an id. -/
inductive SpelledApart (n : Int) : Except ClientError Json → Except ClientError Json → Prop
  | error (error : ClientError) : SpelledApart n (.error error) (.error error)
  | reply {body body' : Json} (h : Respelled n body body') : SpelledApart n (.ok body) (.ok body')

/-- What two servers make of a command: the same, but for the spelling of an id. -/
inductive ContentsApart (name : String) (n : Int) :
    Option (Nat × String) → Option (Nat × String) → Prop
  | none : ContentsApart name n none none
  | some {status status' : Nat} {text text' : String}
    (h : SpelledApart n (Envelope.decode name status text) (Envelope.decode name status' text')) :
    ContentsApart name n (some (status, text)) (some (status', text'))

namespace Connection

variable {σ : Type} {connection : Connection} {command : Command} {n : Int}
  {numeric textual : World σ}

/-- Two worlds are the same, but for the spelling of an id in what their servers reply to a command
and to questions about the job of that id. -/
structure Twins (connection : Connection) (command : Command) (n : Int)
    (numeric textual : World σ) : Prop where
  same : textual = { numeric with server := textual.server }
  apart : ∀ asked ∈ [command, (Call.jobResult (Number.intText n)).toCommand], ∀ url,
    Url.parse (connection.urlText asked) = .ok url → ∀ state,
      ContentsApart asked.name n (numeric.server url state).1.content
        (textual.server url state).1.content ∧
      (textual.server url state).1.delay = (numeric.server url state).1.delay ∧
      (textual.server url state).2 = (numeric.server url state).2

/-- Requests end in the same way in both worlds, but for the spelling of the id. -/
theorem Twins.deliver (h : connection.Twins command n numeric textual) {asked : Command}
    (hasked : asked ∈ [command, (Call.jobResult (Number.intText n)).toCommand]) {url : Url}
    (hurl : Url.parse (connection.urlText asked) = .ok url) :
    SpelledApart n (receive asked url (numeric.deliver ⟨url, connection.requestTimeout⟩).1)
        (receive asked url (textual.deliver ⟨url, connection.requestTimeout⟩).1) ∧
      connection.Twins command n (numeric.afterRequest ⟨url, connection.requestTimeout⟩)
        (textual.afterRequest ⟨url, connection.requestTimeout⟩) := by
  obtain ⟨hsame, hall⟩ := h
  obtain ⟨clock, server, state, link, letters, drawn, arrivals⟩ := numeric
  obtain ⟨server', rfl⟩ : ∃ server', textual =
      ⟨clock, server', state, link, letters, drawn, arrivals⟩ := ⟨_, hsame⟩
  obtain ⟨hcontent, hdelay, hstate⟩ := hall asked hasked url hurl state
  simp only at hcontent hdelay hstate
  cases link with
  | down => exact ⟨.error _, rfl, hall⟩
  | up =>
    simp only [World.afterRequest, World.deliver, hdelay, hstate]
    split
    · exact ⟨.error _, rfl, hall⟩
    · cases hanswer : (server url state).1.content with
      | none =>
        cases hanswer' : (server' url state).1.content with
        | none => exact ⟨.error _, rfl, hall⟩
        | some content => rw [hanswer, hanswer'] at hcontent; cases hcontent
      | some content =>
        cases hanswer' : (server' url state).1.content with
        | none => rw [hanswer, hanswer'] at hcontent; cases hcontent
        | some content' =>
          rw [hanswer, hanswer'] at hcontent
          cases hcontent with
          | some hread => exact ⟨hread, rfl, hall⟩

/-- What a command comes to in both worlds. -/
theorem Twins.exists_send (h : connection.Twins command n numeric textual) {asked : Command}
    (hasked : asked ∈ [command, (Call.jobResult (Number.intText n)).toCommand]) :
    ∃ result result' numeric' textual',
      (connection.send asked).run numeric = (some result, numeric') ∧
      (connection.send asked).run textual = (some result', textual') ∧
      SpelledApart n result result' ∧ connection.Twins command n numeric' textual' ∧
      (connection.send asked).requests textual = (connection.send asked).requests numeric := by
  cases hurl : Url.parse (connection.urlText asked) with
  | error fault =>
    refine ⟨_, _, numeric, textual, run_send_error hurl, run_send_error hurl, .error _, h, ?_⟩
    rw [send, hurl]
    rfl
  | ok url =>
    obtain ⟨hresult, htwins⟩ := h.deliver hasked hurl
    refine ⟨_, _, _, _, run_send_ok hurl, run_send_ok hurl, hresult, htwins, ?_⟩
    rw [Action.requests, Action.requests, exceptRun_send hurl]
    rfl

/-- What a question about the job comes to in both worlds: with a number it is an error, and the
number is what is wrong if the other answer is read. -/
theorem Twins.exists_queryJob (h : connection.Twins command n numeric textual) :
    ∃ error answer numeric' textual',
      (connection.queryJob (Number.intText n)).run numeric = (some (.error error), numeric') ∧
      (connection.queryJob (Number.intText n)).run textual = (some answer, textual') ∧
      (∀ job, answer = .ok job →
        error = .serialization (.wrongType (.num (.whole n)) "a string")) ∧
      (connection.queryJob (Number.intText n)).requests textual =
        (connection.queryJob (Number.intText n)).requests numeric := by
  have hasked : (Call.jobResult (Number.intText n)).toCommand ∈
      [command, (Call.jobResult (Number.intText n)).toCommand] := by simp
  obtain ⟨_, _, numeric', textual', hnumeric, htextual, hapart, -, hrequests⟩ :=
    h.exists_send hasked
  have hrequests' : ∀ world : World σ, (connection.queryJob (Number.intText n)).requests world =
      (connection.send (Call.jobResult (Number.intText n)).toCommand).requests world :=
    Action.requests_bind_ofExcept _ _
  rw [hrequests', hrequests', hrequests]
  cases hapart with
  | error error =>
    exact ⟨error, .error error, numeric', textual', Action.run_bind_error hnumeric,
      Action.run_bind_error htextual, nofun, rfl⟩
  | reply hbody =>
    rename_i body body'
    obtain ⟨fault, hfault⟩ := hbody.exists_error
    have hdecoded : decoded (Job.ofJson body) = .error (.serialization fault) := by
      rw [hfault, decoded]
    refine ⟨.serialization fault, decoded (Job.ofJson body'), numeric', textual', ?_,
      Action.run_bind_ok htextual, ?_, rfl⟩
    · rw [← hdecoded]
      exact Action.run_bind_ok hnumeric
    · intro job hjob
      cases hown : Job.ofJson body' with
      | error fault' => rw [hown] at hjob; exact absurd hjob (by simp [decoded])
      | ok own => rw [← Except.error.inj (hfault.symm.trans (hbody.error_of_ok hown))]

/-! ## The first answer -/

/-- What the first question about the job of a command comes to, if there is one. -/
def FirstAnswer (connection : Connection) (command : Command) (world : World σ)
    (answer : Except ClientError Job) : Prop :=
  ∃ body world' jobId, (connection.send command).run world = (some (.ok body), world') ∧
    startedJob? body = some jobId ∧ connection.HasTime world'.clock ∧
    ((connection.queryJob jobId).run world').1 = some answer

theorem firstAnswer_unique {world : World σ} {answer answer' : Except ClientError Job}
    (h : connection.FirstAnswer command world answer)
    (h' : connection.FirstAnswer command world answer') : answer = answer' := by
  obtain ⟨body, world₁, jobId, hsend, hjob, -, hanswer⟩ := h
  obtain ⟨body', world₁', jobId', hsend', hjob', -, hanswer'⟩ := h'
  obtain ⟨rfl, rfl⟩ : body = body' ∧ world₁ = world₁' := by simpa using hsend.symm.trans hsend'
  obtain rfl := Option.some.inj (hjob.symm.trans hjob')
  exact Option.some.inj (hanswer.symm.trans hanswer')

/-- Waiting for a job begins with a question. -/
theorem exists_awaits_of_queryJob {world world' : World σ} {jobId : String}
    {answer : Except ClientError Job} (name : String) (htime : connection.HasTime world.clock)
    (hquestion : (connection.queryJob jobId).run world = (some answer, world')) :
    ∃ delivery answers world'', connection.answer (.jobResult jobId) delivery = answer ∧
      (connection.queryJob jobId).requests world =
        ((questions jobId [delivery]).flatMap connection.exchanged).map Exchange.request ∧
      connection.Awaits name jobId (ExceptT.run (connection.waitForJob name jobId)) world
        (delivery :: answers) world'' := by
  obtain ⟨deadline, hdeadline⟩ := Option.isSome_iff_exists.1 htime
  obtain ⟨delivery, world₁, answers, world'', hown, hawaits⟩ :=
    exists_awaits_waitForJob name jobId hdeadline
  refine ⟨delivery, answers, world'', ?_, congrArg (List.map Exchange.request) hown.exchanges,
    hawaits⟩
  exact Option.some.inj (congrArg Prod.fst (hown.run.symm.trans hquestion))

section StartedCommands

variable {world world' : World σ} {body : Json} {jobId : String}

/-- A command that starts a job submits it, and waits for it. -/
theorem run_executeRaw_of_startedJob (hasync : command.isAsync = true)
    (hsend : (connection.send command).run world = (some (.ok body), world'))
    (hjob : startedJob? body = some jobId) :
    ((connection.executeRaw command).run world).1 =
        ((connection.waitForJob command.name jobId).run world').1.map (jobOutput jobId) ∧
      (connection.executeRaw command).requests world = (connection.send command).requests world ++
        (connection.waitForJob command.name jobId).requests world' := by
  refine ⟨?_, ?_⟩
  · rw [executeRaw, Action.run_bind_ok hsend]
    simp only [hasync, Bool.not_true, Bool.false_eq_true, if_false, hjob]
    exact congrArg Prod.fst (Action.run_map _ _ _)
  · rw [executeRaw, Action.requests_bind_ok hsend]
    simp only [hasync, Bool.not_true, Bool.false_eq_true, if_false, hjob,
      List.append_cancel_left_eq]
    exact Action.requests_bind_ofExcept _ _ _

/-- It breaks off there if the clock cannot represent until when it waits. -/
theorem run_executeRaw_of_not_hasTime (hasync : command.isAsync = true)
    (hsend : (connection.send command).run world = (some (.ok body), world'))
    (hjob : startedJob? body = some jobId) (htime : ¬ connection.HasTime world'.clock) :
    ((connection.executeRaw command).run world).1 = none ∧
      (connection.executeRaw command).requests world =
        (connection.send command).requests world := by
  have hbroken : connection.BreaksOff (ExceptT.run (connection.waitForJob command.name jobId))
      world' [] world' := breaksOff_instantAfter_bind (Option.not_isSome_iff_eq_none.1 htime)
  have hsilent : (connection.waitForJob command.name jobId).requests world' = [] :=
    congrArg (List.map Exchange.request) hbroken.exchanges
  obtain ⟨hrun, hown⟩ := run_executeRaw_of_startedJob hasync hsend hjob
  rw [hrun, hown, hsilent, List.append_nil]
  exact ⟨congrArg (Option.map (jobOutput jobId)) (congrArg Prod.fst hbroken.run), rfl⟩

end StartedCommands

/-- An error that belongs to no job does not come of an answer that was read. -/
theorem eq_error_of_jobOutput {name jobId : String} {answer : Except ClientError Job}
    {error : ClientError} (hnoJob : error.jobId? = none)
    (h : jobOutput jobId (connection.verdict name jobId answer) = .error error) :
    answer = .error error := by
  cases answer with
  | error other =>
    simp only [verdict, jobOutput, Except.map, Except.error.injEq] at h
    rw [h]
  | ok job =>
    cases hstatus : job.status with
    | succeeded => simp [verdict, hstatus, jobOutput, Except.map] at h
    | failed =>
      simp only [verdict, hstatus, jobOutput, Except.map, Except.error.injEq] at h
      exact absurd (h ▸ hnoJob) (by simp [jobFailure, ClientError.jobId?])
    | pending =>
      simp only [verdict, hstatus, jobOutput, Except.map, Except.error.injEq] at h
      exact absurd (h ▸ hnoJob) (by simp [jobOverdue, ClientError.jobId?])

/-- The error of a question belongs to no job. -/
theorem jobId?_of_run_queryJob {world world' : World σ} {jobId : String} {error : ClientError}
    (h : (connection.queryJob jobId).run world = (some (.error error), world')) :
    error.jobId? = none := by
  obtain ⟨answer, world₁, hasked⟩ := exists_isAsked connection jobId world
  exact hasked.noJob error (Option.some.inj (congrArg Prod.fst (hasked.run.symm.trans h)))

theorem exists_url_of_run_send {world world' : World σ} {body : Json}
    (h : (connection.send command).run world = (some (.ok body), world')) :
    ∃ url, Url.parse (connection.urlText command) = .ok url := by
  cases hurl : Url.parse (connection.urlText command) with
  | ok url => exact ⟨url, rfl⟩
  | error fault => exact absurd ((run_send_error hurl).symm.trans h) (by simp)

/-- A command that asks about its job first asks once. If that is all, then the answer decides, or
the job goes on and the command breaks off. -/
theorem exists_requests_executeRaw {world world' world'' : World σ} {body : Json} {jobId : String}
    {answer : Except ClientError Job} (hasync : command.isAsync = true)
    (hsend : (connection.send command).run world = (some (.ok body), world'))
    (hjob : startedJob? body = some jobId) (htime : connection.HasTime world'.clock)
    (hquestion : (connection.queryJob jobId).run world' = (some answer, world'')) :
    ∃ more, (connection.executeRaw command).requests world =
        ((connection.send command).requests world ++
          (connection.queryJob jobId).requests world') ++ more ∧
      (more = [] ∧ ((connection.executeRaw command).run world).1 =
          some (jobOutput jobId (connection.verdict command.name jobId answer)) ∨
        (∃ job, answer = .ok job) ∧
          (more = [] → ((connection.executeRaw command).run world).1 = none)) := by
  obtain ⟨delivery, answers, world₁, hanswer, hrequests, hawaits⟩ :=
    exists_awaits_of_queryJob command.name htime hquestion
  obtain ⟨hrun, hown⟩ := run_executeRaw_of_startedJob hasync hsend hjob
  have hwait : (connection.waitForJob command.name jobId).requests world' =
      (connection.queryJob jobId).requests world' ++
        ((questions jobId answers).flatMap connection.exchanged).map Exchange.request := by
    rw [hrequests, ← List.map_append, ← List.flatMap_append]
    exact congrArg (List.map Exchange.request) hawaits.exchanges
  refine ⟨_, by rw [hown, hwait, List.append_assoc], ?_⟩
  rw [hrun, ← hanswer]
  rcases hawaits.first_cases with ⟨rfl, hdecided⟩ | ⟨⟨job, hgoesOn, -⟩, hbroken⟩
  · exact .inl ⟨rfl, congrArg (Option.map (jobOutput jobId)) (congrArg Prod.fst hdecided)⟩
  · refine .inr ⟨⟨job, hgoesOn⟩, fun hnone => ?_⟩
    -- another question is another request
    obtain ⟨url, hurl⟩ := exists_url_of_run_send hsend
    have hlast : answers = [] := by
      cases answers with
      | nil => rfl
      | cons next answers =>
        obtain ⟨url', hexchanged⟩ := exists_exchanged_of_parse hurl ⟨.jobResult jobId, next⟩
        rw [questions, List.map_cons, List.flatMap_cons, hexchanged] at hnone
        exact absurd hnone (by simp)
    exact congrArg (Option.map (jobOutput jobId)) (congrArg Prod.fst (hbroken hlast))

/-- If the first answer about its job is an error, a command ends with it and asks no more. -/
theorem run_executeRaw_of_error {world world' world'' : World σ} {body : Json} {jobId : String}
    {error : ClientError} (hasync : command.isAsync = true)
    (hsend : (connection.send command).run world = (some (.ok body), world'))
    (hjob : startedJob? body = some jobId) (htime : connection.HasTime world'.clock)
    (hquestion : (connection.queryJob jobId).run world' = (some (.error error), world'')) :
    ((connection.executeRaw command).run world).1 = some (.error error) ∧
      (connection.executeRaw command).requests world = (connection.send command).requests world ++
        (connection.queryJob jobId).requests world' := by
  obtain ⟨more, hrequests, ⟨rfl, hrun⟩ | ⟨⟨job, hjob⟩, -⟩⟩ :=
    exists_requests_executeRaw hasync hsend hjob htime hquestion
  · exact ⟨hrun, hrequests.trans (List.append_nil _)⟩
  · exact absurd hjob (by simp)

/-! ## Both worlds -/

section Unasked

variable {numeric' textual' : World σ}
  (hrequests : (connection.send command).requests textual =
    (connection.send command).requests numeric)

include hrequests

/-- If the submission fails in both worlds, that is all there is. -/
theorem sameIn_of_send_error {error : ClientError}
    (hnumeric : (connection.send command).run numeric = (some (.error error), numeric'))
    (htextual : (connection.send command).run textual = (some (.error error), textual')) :
    (connection.executeRaw command).SameIn numeric textual ∧
      ∀ answer, ¬ connection.FirstAnswer command textual answer := by
  have hrun : (connection.executeRaw command).run numeric = (some (.error error), numeric') :=
    Action.run_bind_error hnumeric
  have hrun' : (connection.executeRaw command).run textual = (some (.error error), textual') :=
    Action.run_bind_error htextual
  have hown : (connection.executeRaw command).requests numeric =
      (connection.send command).requests numeric := Action.requests_bind_error hnumeric
  have hown' : (connection.executeRaw command).requests textual =
      (connection.send command).requests textual := Action.requests_bind_error htextual
  refine ⟨⟨by rw [hown, hown', hrequests], by rw [hrun, hrun']⟩, ?_⟩
  rintro answer ⟨body, world', jobId, hsend, -⟩
  exact absurd (hsend.symm.trans htextual) (by simp)

/-- If the clock cannot represent until when the job is waited for, nothing is asked about it. -/
theorem sameIn_of_not_hasTime {body body' : Json} {jobId : String} (hasync : command.isAsync = true)
    (hnumeric : (connection.send command).run numeric = (some (.ok body), numeric'))
    (htextual : (connection.send command).run textual = (some (.ok body'), textual'))
    (hjob : startedJob? body = some jobId) (hjob' : startedJob? body' = some jobId)
    (htime : ¬ connection.HasTime numeric'.clock) (htime' : ¬ connection.HasTime textual'.clock) :
    (connection.executeRaw command).SameIn numeric textual ∧
      ∀ answer, ¬ connection.FirstAnswer command textual answer := by
  obtain ⟨hrun, hown⟩ := run_executeRaw_of_not_hasTime hasync hnumeric hjob htime
  obtain ⟨hrun', hown'⟩ := run_executeRaw_of_not_hasTime hasync htextual hjob' htime'
  refine ⟨⟨by rw [hown, hown', hrequests], by rw [hrun, hrun']⟩, ?_⟩
  rintro answer ⟨own, world', jobId', hsend, -, htime'', -⟩
  obtain ⟨-, rfl⟩ : _ ∧ world' = textual' := by simpa using hsend.symm.trans htextual
  exact htime' htime''

end Unasked

/-- A command that starts a job, against a server that writes the id of the job as a number and
against one that writes it as text. Both are asked the same, until the first answer about the job is
heard; with a number this answer is an error, the command ends with it, and the number is what is
wrong if the answer with the text is read. So the command does the same against both if and only if
there is no such answer, or it is the same error with the text. -/
theorem executeRaw_sameIn_iff (connection : Connection) {command : Command}
    (hasync : command.isAsync = true) {n : Int} {numeric textual : World σ}
    (h : connection.Twins command n numeric textual) :
    (connection.executeRaw command).requests numeric <+:
        (connection.executeRaw command).requests textual ∧
      ((∀ answer, ¬ connection.FirstAnswer command textual answer) →
        (connection.executeRaw command).SameIn numeric textual) ∧
      ∀ answer, connection.FirstAnswer command textual answer → ∃ error,
        connection.FirstAnswer command numeric (.error error) ∧
        ((connection.executeRaw command).run numeric).1 = some (.error error) ∧
        ((connection.executeRaw command).SameIn numeric textual ↔ answer = .error error) ∧
        ∀ job, answer = .ok job →
          error = .serialization (.wrongType (.num (.whole n)) "a string") := by
  have hasked : command ∈ [command, (Call.jobResult (Number.intText n)).toCommand] := by simp
  obtain ⟨_, _, numeric', textual', hnumeric, htextual, hapart, htwins, hrequests⟩ :=
    h.exists_send hasked
  cases hapart with
  | error error =>
    obtain ⟨hsame, hnone⟩ := sameIn_of_send_error hrequests hnumeric htextual
    exact ⟨⟨[], (List.append_nil _).trans hsame.requests.symm⟩, fun _ => hsame,
      fun answer hanswer => absurd hanswer (hnone answer)⟩
  | reply hbody =>
    obtain ⟨hjob, hjob'⟩ := hbody.startedJob?
    have hclock : textual'.clock = numeric'.clock := by rw [htwins.same]
    by_cases htime : connection.HasTime numeric'.clock
    · have htime' : connection.HasTime textual'.clock := hclock.symm ▸ htime
      obtain ⟨error, answer, _, _, hquestion, hquestion', hnumber, hasks⟩ :=
        htwins.exists_queryJob
      obtain ⟨hrun, hown⟩ := run_executeRaw_of_error hasync hnumeric hjob htime hquestion
      obtain ⟨more, hother, hends⟩ :=
        exists_requests_executeRaw hasync htextual hjob' htime' hquestion'
      have hfirst : connection.FirstAnswer command textual answer :=
        ⟨_, textual', _, htextual, hjob', htime', congrArg Prod.fst hquestion'⟩
      rw [hrequests, hasks, ← hown] at hother
      refine ⟨⟨more, hother.symm⟩, fun hnone => absurd hfirst (hnone answer), ?_⟩
      intro answer' hanswer
      obtain rfl := firstAnswer_unique hfirst hanswer
      refine ⟨error, ⟨_, numeric', _, hnumeric, hjob, htime, congrArg Prod.fst hquestion⟩, hrun,
        ⟨?_, ?_⟩, hnumber⟩
      · rintro ⟨hsame, hend⟩
        rw [hother] at hsame
        have hend' := hend.trans hrun
        rcases hends with ⟨-, hverdict⟩ | ⟨-, hbroken⟩
        · exact eq_error_of_jobOutput (jobId?_of_run_queryJob hquestion)
            (Option.some.inj (hverdict.symm.trans hend'))
        · have hnone := hbroken (List.append_right_eq_self.1 hsame)
          exact absurd (hnone.symm.trans hend') (by simp)
      · rintro rfl
        obtain ⟨hrun', hown'⟩ := run_executeRaw_of_error hasync htextual hjob' htime' hquestion'
        exact ⟨by rw [hown', hown, hrequests, hasks], hrun'.trans hrun.symm⟩
    · have htime' : ¬ connection.HasTime textual'.clock := hclock.symm ▸ htime
      obtain ⟨hsame, hnone⟩ :=
        sameIn_of_not_hasTime hrequests hasync hnumeric htextual hjob hjob' htime htime'
      exact ⟨⟨[], (List.append_nil _).trans hsame.requests.symm⟩, fun _ => hsame,
        fun answer hanswer => absurd hanswer (hnone answer)⟩

/-! ## A job of either kind -/

section JobSeven

open JobRunner

/-- A server says the same to every request: that a job has succeeded. -/
def sevenReply (id : String) : String := "\x7b\"jobid\":" ++ id ++ ",\"jobstatus\":1\x7d"

/-- What it says, read. -/
def sevenBody (id : Json) : Json := .obj [("jobid", id), ("jobstatus", .num (.whole 1))]

/-- A world in which the id is a number. -/
def numericWorld : World Unit := QuickJob.world (sevenReply "7")

/-- A world in which it is text. -/
def textualWorld : World Unit := QuickJob.world (sevenReply "\"7\"")

theorem decode_seven :
    Envelope.decode EndlessJob.command.name 200 (sevenReply "7") =
        .ok (sevenBody (.num (.whole 7))) ∧
      Envelope.decode EndlessJob.command.name 200 (sevenReply "\"7\"") =
        .ok (sevenBody (.str "7")) ∧
      Envelope.decode "queryAsyncJobResult" 200 (sevenReply "7") =
        .ok (sevenBody (.num (.whole 7))) ∧
      Envelope.decode "queryAsyncJobResult" 200 (sevenReply "\"7\"") =
        .ok (sevenBody (.str "7")) := ⟨rfl, rfl, rfl, rfl⟩

theorem twins_seven :
    QuickJob.runner.client.connection.Twins EndlessJob.command 7 numericWorld textualWorld := by
  obtain ⟨hnumeric, htextual, hnumeric', htextual'⟩ := decode_seven
  have hbody : Respelled 7 (sevenBody (.num (.whole 7))) (sevenBody (.str "7")) := by
    refine ⟨rfl, rfl, ?_⟩
    intro name hname
    simp [sevenBody, Dictionary.find?, Ne.symm hname]
  refine ⟨rfl, ?_⟩
  intro asked hasked url _ state
  have hread : SpelledApart 7 (Envelope.decode asked.name 200 (sevenReply "7"))
      (Envelope.decode asked.name 200 (sevenReply "\"7\"")) := by
    simp only [List.mem_cons, List.not_mem_nil, or_false] at hasked
    rcases hasked with rfl | rfl
    · rw [hnumeric, htextual]
      exact .reply hbody
    · rw [Call.toCommand_name, Call.jobResult, hnumeric', htextual']
      exact .reply hbody
  have hcontent : ContentsApart asked.name 7 (some (200, sevenReply "7"))
      (some (200, sevenReply "\"7\"")) := .some hread
  exact ⟨hcontent, rfl, rfl⟩

/-- Where a server says the same to every request, that is what a command comes to. -/
theorem run_send_quickJob (world : World Unit) {asked : Command} {url : Url} {reply : String}
    {body : Json}
    (hurl : Url.parse (QuickJob.runner.client.connection.urlText asked) = .ok url)
    (hlink : world.link = .up) (hserver : world.server = (QuickJob.world reply).server)
    (hread : Envelope.decode asked.name 200 reply = .ok body) :
    (QuickJob.runner.client.connection.send asked).run world = (some (.ok body),
      world.afterRequest ⟨url, QuickJob.runner.client.connection.requestTimeout⟩) := by
  have hdelivery : (world.deliver ⟨url, QuickJob.runner.client.connection.requestTimeout⟩).1 =
      .reply 200 reply := by
    rw [World.deliver, hlink, hserver]
    rfl
  rw [run_send_ok hurl, hdelivery, ← hread]
  rfl

theorem firstAnswer_seven : QuickJob.runner.client.connection.FirstAnswer EndlessJob.command
    textualWorld (.ok ⟨"7", .succeeded, none, none, none, none, none⟩) := by
  obtain ⟨-, htextual, -, htextual'⟩ := decode_seven
  obtain ⟨url, hurl⟩ := QuickJob.exists_url EndlessJob.command
  obtain ⟨url', hurl'⟩ := QuickJob.exists_url (Call.jobResult "7").toCommand
  have hsend := run_send_quickJob textualWorld hurl rfl rfl htextual
  have hquestion := run_send_quickJob (textualWorld.afterRequest
    ⟨url, QuickJob.runner.client.connection.requestTimeout⟩) hurl' rfl rfl htextual'
  refine ⟨_, _, "7", hsend, rfl, (show (Instant.later? ⟨0⟩ (.ofSeconds 1)).isSome by decide), ?_⟩
  exact congrArg Prod.fst (Action.run_bind_ok hquestion)

/-- With text the job has succeeded, with a number it is lost. -/
theorem exists_parted_runs :
    ∃ job error, QuickJob.runner.client.connection.FirstAnswer EndlessJob.command textualWorld
        (.ok job) ∧
      ((QuickJob.runner.client.connection.executeRaw EndlessJob.command).run numericWorld).1 =
        some (.error error) ∧
      ¬ (QuickJob.runner.client.connection.executeRaw EndlessJob.command).SameIn numericWorld
        textualWorld := by
  obtain ⟨-, -, hfirst⟩ :=
    executeRaw_sameIn_iff QuickJob.runner.client.connection rfl twins_seven
  obtain ⟨error, -, hrun, hsame, -⟩ := hfirst _ firstAnswer_seven
  refine ⟨_, error, firstAnswer_seven, hrun, ?_⟩
  intro h
  exact absurd (hsame.1 h) (by simp)

/-- The job that has succeeded in both worlds is an error if its id is a number. -/
theorem exists_job_lost_by_number :
    QuickJob.runner.client.connection.Twins EndlessJob.command 7 numericWorld textualWorld ∧
      ((QuickJob.runner.client.executeRaw EndlessJob.command).run numericWorld).1 =
        some (.error (.serialization (.wrongType (.num (.whole 7)) "a string"))) ∧
      ((QuickJob.runner.client.executeRaw EndlessJob.command).run textualWorld).1 =
        some (.ok ⟨some "7", .obj []⟩) := by
  obtain ⟨hnumeric, htextual, hnumeric', htextual'⟩ := decode_seven
  have hlost := QuickJob.ensures_executeRaw hnumeric hnumeric'
    (show startedJob? (sevenBody (.num (.whole 7))) = some "7" from rfl)
    (show _ = Except.error (.serialization (.wrongType (.num (.whole 7)) "a string")) from rfl)
    nofun
  have hfound := QuickJob.ensures_executeRaw htextual htextual'
    (show startedJob? (sevenBody (.str "7")) = some "7" from rfl)
    (show _ = Except.ok ⟨"7", .succeeded, none, none, none, none, none⟩ from rfl)
    (by rintro _ ⟨⟩; simp)
  obtain ⟨-, hrun⟩ := Dialogue.run_of_ensures hlost numericWorld.gives_answers
  obtain ⟨-, hrun'⟩ := Dialogue.run_of_ensures hfound textualWorld.gives_answers
  exact ⟨twins_seven, hrun, hrun'⟩

end JobSeven

end Connection

end ControlPlane
