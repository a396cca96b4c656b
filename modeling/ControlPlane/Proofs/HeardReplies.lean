import ControlPlane.Proofs.JobPolling
import ControlPlane.Proofs.Outcomes
import ControlPlane.Proofs.Transcripts

/-!
# What a command hears

A dialogue goes on from one answer to the next. `Dialogue.Hears` says what is left of it after some
exchanges, whatever the clock shows meanwhile and whatever is drawn; what a dialogue hears in a
world until it needs time is `Dialogue.heard` (`hears_of_advance`).

A dialogue that is made of two hears one after the other (`hears_bind_inv`). So a command hears the
reply to its submission and then the answers about its job, and the last of these decides
(`Connection.hears_executeRaw`).
-/

namespace ControlPlane

namespace Dialogue

variable {α β σ : Type}

/-- What is left of a dialogue after some exchanges. -/
inductive Hears : Dialogue α → List Exchange → Dialogue α → Prop
  | nil (d : Dialogue α) : Hears d [] d
  | send {request : Request} {next : Delivery → Dialogue α} (delivery : Delivery)
    {exchanges : List Exchange} {rest : Dialogue α} (h : Hears (next delivery) exchanges rest) :
    Hears (.send request next) (⟨request, delivery⟩ :: exchanges) rest
  | readClock {next : Instant → Dialogue α} (now : Instant) {exchanges : List Exchange}
    {rest : Dialogue α} (h : Hears (next now) exchanges rest) :
    Hears (.readClock next) exchanges rest
  | wait {span : Duration} {next : Dialogue α} {exchanges : List Exchange} {rest : Dialogue α}
    (h : Hears next exchanges rest) : Hears (.wait span next) exchanges rest
  | draw {next : Fin 62 → Dialogue α} (letter : Fin 62) {exchanges : List Exchange}
    {rest : Dialogue α} (h : Hears (next letter) exchanges rest) :
    Hears (.draw next) exchanges rest

theorem hears_trans {d middle rest : Dialogue α} {exchanges more : List Exchange}
    (h : d.Hears exchanges middle) (hmore : middle.Hears more rest) :
    d.Hears (exchanges ++ more) rest := by
  induction h with
  | nil => exact hmore
  | send delivery _ ih => exact .send delivery (ih hmore)
  | readClock now _ ih => exact .readClock now (ih hmore)
  | wait _ ih => exact .wait (ih hmore)
  | draw letter _ ih => exact .draw letter (ih hmore)

/-! ## Going on in a world -/

/-- What a dialogue hears in a world until it needs time. -/
def heard : Dialogue α → World σ → List Exchange
  | .done _, _ => []
  | .broken, _ => []
  | .send request _, world => [⟨request, (world.deliver request).1⟩]
  | .readClock next, world => (next world.clock).heard world
  | .wait _ _, _ => []
  | .draw next, world => (next world.drawOne.1).heard world.drawOne.2

/-- Whether a dialogue that has heard something stands at a point. -/
def Progress.IsAfter (d : Dialogue α) (exchanges : List Exchange) : Progress α → Prop
  | .ended (some a) => d.Hears exchanges (.done a)
  | .ended none => True
  | .sleeping _ rest => d.Hears exchanges rest

theorem hears_of_advance (d : Dialogue α) (world : World σ) :
    (d.advance world).1.IsAfter d (d.heard world) := by
  -- what comes before the first exchange is heard of by nobody
  have before : ∀ {d next : Dialogue α}, (∀ exchanges rest, next.Hears exchanges rest →
      d.Hears exchanges rest) → ∀ (progress : Progress α) exchanges,
        progress.IsAfter next exchanges → progress.IsAfter d exchanges := by
    intro d next hnext progress exchanges h
    cases progress with
    | ended result =>
      cases result with
      | none => exact trivial
      | some a => exact hnext _ _ h
    | sleeping wake rest => exact hnext _ _ h
  induction d generalizing world with
  | done a => exact .nil _
  | broken => exact trivial
  | send request next _ => exact .send _ (.nil _)
  | readClock next ih => exact before (fun _ _ => .readClock world.clock) _ _ (ih _ world)
  | wait span next _ => exact .wait (.nil _)
  | draw next ih => exact before (fun _ _ => .draw world.drawOne.1) _ _ (ih _ world.drawOne.2)

/-! ## One after another -/

theorem hears_done_inv {a b : α} {exchanges : List Exchange}
    (h : (done a).Hears exchanges (.done b)) : exchanges = [] ∧ a = b := by
  cases h
  exact ⟨rfl, rfl⟩

/-- Of one dialogue after another, the second hears what comes after the first has ended. -/
theorem hears_bind_inv {d : Dialogue α} {f : α → Dialogue β} {exchanges : List Exchange} {b : β}
    (h : (d.bind f).Hears exchanges (.done b)) :
    ∃ before after a, exchanges = before ++ after ∧ d.Hears before (.done a) ∧
      (f a).Hears after (.done b) := by
  induction d generalizing exchanges with
  | done a => exact ⟨[], exchanges, a, rfl, .nil _, h⟩
  | broken => cases h
  | send request next ih =>
    cases h with
    | send delivery h =>
      obtain ⟨before, after, a, rfl, hfirst, hsecond⟩ := ih delivery h
      exact ⟨⟨request, delivery⟩ :: before, after, a, rfl, .send delivery hfirst, hsecond⟩
  | readClock next ih =>
    cases h with
    | readClock now h =>
      obtain ⟨before, after, a, rfl, hfirst, hsecond⟩ := ih now h
      exact ⟨before, after, a, rfl, .readClock now hfirst, hsecond⟩
  | wait span next ih =>
    cases h with
    | wait h =>
      obtain ⟨before, after, a, rfl, hfirst, hsecond⟩ := ih h
      exact ⟨before, after, a, rfl, .wait hfirst, hsecond⟩
  | draw next ih =>
    cases h with
    | draw letter h =>
      obtain ⟨before, after, a, rfl, hfirst, hsecond⟩ := ih letter h
      exact ⟨before, after, a, rfl, .draw letter hfirst, hsecond⟩

/-- An action after another hears what comes after the first has succeeded; an error is the end. -/
theorem hears_action_bind_inv {action : Action α} {f : α → Action β} {exchanges : List Exchange}
    {result : Except ClientError β}
    (h : (ExceptT.run (action >>= f)).Hears exchanges (.done result)) :
    (∃ error, result = .error error ∧
        (ExceptT.run action).Hears exchanges (.done (.error error))) ∨
      ∃ before after a, exchanges = before ++ after ∧
        (ExceptT.run action).Hears before (.done (.ok a)) ∧
        (ExceptT.run (f a)).Hears after (.done result) := by
  obtain ⟨before, after, first, rfl, hfirst, hsecond⟩ := hears_bind_inv h
  cases first with
  | error error =>
    obtain ⟨rfl, rfl⟩ := hears_done_inv hsecond
    exact .inl ⟨error, rfl, by rwa [List.append_nil]⟩
  | ok a => exact .inr ⟨before, after, a, rfl, hfirst, hsecond⟩

/-- The clock may show anything from which an instant can be counted. -/
theorem hears_instantAfter_bind_inv {span : Duration} {f : Instant → Action α}
    {exchanges : List Exchange} {result : Except ClientError α}
    (h : (ExceptT.run (Action.instantAfter span >>= f)).Hears exchanges (.done result)) :
    ∃ instant, (ExceptT.run (f instant)).Hears exchanges (.done result) := by
  rw [Action.exceptRun_instantAfter_bind] at h
  cases h with
  | readClock now h =>
    simp only at h
    split at h
    · exact ⟨_, h⟩
    · cases h

/-- Nothing is heard in a pause. -/
theorem hears_pause_bind_inv {span : Duration} {f : Unit → Action α} {exchanges : List Exchange}
    {result : Except ClientError α}
    (h : (ExceptT.run (Action.ofDialogue (pause span) >>= f)).Hears exchanges (.done result)) :
    (ExceptT.run (f ())).Hears exchanges (.done result) := by
  cases h with
  | wait h => exact h

end Dialogue

/-! ## Commands -/

namespace Connection

open Dialogue

variable {connection : Connection} {command : Command} {jobId : String} {url : Url}
  {exchanges : List Exchange}

/-- The exchange for a URL that ended with a delivery. -/
def exchange (connection : Connection) (url : Url) (delivery : Delivery) : Exchange :=
  ⟨⟨url, connection.requestTimeout⟩, delivery⟩

/-- A command is sent once, and its reply decides. -/
theorem hears_send {result : Except ClientError Json}
    (h : (ExceptT.run (connection.send command)).Hears exchanges (.done result)) :
    (∃ fault, Url.parse (connection.urlText command) = .error fault ∧ exchanges = [] ∧
        result = .error (.http (.badUrl fault))) ∨
      ∃ url delivery, Url.parse (connection.urlText command) = .ok url ∧
        exchanges = [connection.exchange url delivery] ∧ result = receive command url delivery := by
  unfold send at h
  split at h
  · rename_i fault hurl
    obtain ⟨rfl, rfl⟩ := hears_done_inv h
    exact .inl ⟨fault, hurl, rfl, rfl⟩
  · rename_i url hurl
    cases h with
    | send delivery h =>
      obtain ⟨rfl, rfl⟩ := hears_done_inv h
      exact .inr ⟨url, delivery, hurl, rfl, rfl⟩

/-- A job is asked about once, and the answer decides. -/
theorem hears_queryJob (hurl : connection.questionUrl jobId = .ok url)
    {result : Except ClientError Job}
    (h : (ExceptT.run (connection.queryJob jobId)).Hears exchanges (.done result)) :
    ∃ delivery, exchanges = [connection.exchange url delivery] ∧
      result = connection.answer (.jobResult jobId) delivery := by
  -- the reply to the question, whatever comes of it
  have hreply : ∀ {exchanges : List Exchange} {reply : Except ClientError Json},
      (ExceptT.run (connection.send (Call.jobResult jobId).toCommand)).Hears exchanges
        (.done reply) →
      ∃ delivery, exchanges = [connection.exchange url delivery] ∧
        connection.reply (Call.jobResult jobId).toCommand delivery = reply := by
    intro exchanges reply h
    obtain ⟨fault, hfault, -⟩ | ⟨own, delivery, hown, rfl, rfl⟩ := hears_send h
    · exact absurd (hurl.symm.trans hfault) (by simp)
    · obtain rfl : url = own := Except.ok.inj (hurl.symm.trans hown)
      exact ⟨delivery, rfl, by simp only [Connection.reply, hown]⟩
  obtain ⟨error, rfl, hsend⟩ | ⟨before, after, body, rfl, hsend, hdecode⟩ :=
    hears_action_bind_inv h
  · obtain ⟨delivery, rfl, hreply⟩ := hreply hsend
    exact ⟨delivery, rfl, by simp only [answer, hreply]⟩
  · obtain ⟨delivery, rfl, hreply⟩ := hreply hsend
    obtain ⟨rfl, rfl⟩ := hears_done_inv hdecode
    refine ⟨delivery, rfl, ?_⟩
    simp only [answer, hreply]
    rfl

/-- What is heard about a job: answers to questions, of which all but the last say that it goes on,
and what the last makes of it. -/
structure AnswersAbout (connection : Connection) (command jobId : String) (url : Url)
    (exchanges : List Exchange) (last : Delivery) (result : Except ClientError Job) : Prop where
  exchanges : ∃ earlier, exchanges = earlier ++ [connection.exchange url last] ∧
    ∀ exchange ∈ earlier, ∃ delivery job, exchange = connection.exchange url delivery ∧
      connection.answer (.jobResult jobId) delivery = .ok job ∧ job.status = .pending
  result : result = connection.verdict command jobId (connection.answer (.jobResult jobId) last)

/-- After a question the job is asked about again, or the answer decides. -/
theorem hears_pollUntil_succ (hurl : connection.questionUrl jobId = .ok url) {name : String}
    {deadline : Instant} {limit : Nat} {result : Except ClientError Job}
    (h : (ExceptT.run (connection.pollUntil name jobId deadline (limit + 1))).Hears exchanges
      (.done result)) :
    ∃ delivery after, exchanges = connection.exchange url delivery :: after ∧
      (after = [] ∧
          result = connection.verdict name jobId (connection.answer (.jobResult jobId) delivery) ∨
        ∃ job, connection.answer (.jobResult jobId) delivery = .ok job ∧ job.status = .pending ∧
          (ExceptT.run (connection.pollUntil name jobId deadline limit)).Hears after
            (.done result)) := by
  obtain ⟨error, rfl, hquery⟩ | ⟨before, after, job, rfl, hquery, hnext⟩ :=
    hears_action_bind_inv h
  · obtain ⟨delivery, rfl, hanswer⟩ := hears_queryJob hurl hquery
    exact ⟨delivery, [], rfl, .inl ⟨rfl, by rw [← hanswer, verdict]⟩⟩
  · obtain ⟨delivery, rfl, hanswer⟩ := hears_queryJob hurl hquery
    refine ⟨delivery, after, rfl, ?_⟩
    cases hstatus : job.status with
    | succeeded =>
      simp only [hstatus] at hnext
      obtain ⟨rfl, rfl⟩ := hears_done_inv hnext
      exact .inl ⟨rfl, by simp only [← hanswer, verdict, hstatus]⟩
    | failed =>
      simp only [hstatus] at hnext
      obtain ⟨rfl, rfl⟩ := hears_done_inv hnext
      exact .inl ⟨rfl, by simp only [← hanswer, verdict, hstatus]⟩
    | pending =>
      simp only [hstatus] at hnext
      obtain ⟨next, hnext⟩ := hears_instantAfter_bind_inv hnext
      split at hnext
      · obtain ⟨rfl, rfl⟩ := hears_done_inv hnext
        exact .inl ⟨rfl, by simp only [← hanswer, verdict, hstatus]⟩
      · exact .inr ⟨job, hanswer.symm, hstatus, hears_pause_bind_inv hnext⟩

theorem hears_pollUntil (hurl : connection.questionUrl jobId = .ok url) {name : String}
    {deadline : Instant} {limit : Nat} {result : Except ClientError Job}
    (h : (ExceptT.run (connection.pollUntil name jobId deadline (limit + 1))).Hears exchanges
      (.done result)) :
    ∃ last, connection.AnswersAbout name jobId url exchanges last result := by
  induction limit generalizing exchanges with
  | zero =>
    obtain ⟨delivery, after, rfl, ⟨rfl, hresult⟩ | ⟨job, hanswer, hstatus, hnext⟩⟩ :=
      hears_pollUntil_succ hurl h
    · exact ⟨delivery, ⟨[], rfl, by simp⟩, hresult⟩
    · -- no further question is allowed, and the job is overdue
      obtain ⟨rfl, rfl⟩ := hears_done_inv hnext
      exact ⟨delivery, ⟨[], rfl, by simp⟩, by simp only [hanswer, verdict, hstatus]⟩
  | succ limit ih =>
    obtain ⟨delivery, after, rfl, ⟨rfl, hresult⟩ | ⟨job, hanswer, hstatus, hnext⟩⟩ :=
      hears_pollUntil_succ hurl h
    · exact ⟨delivery, ⟨[], rfl, by simp⟩, hresult⟩
    · obtain ⟨last, ⟨earlier, rfl, hearlier⟩, hresult⟩ := ih hnext
      refine ⟨last, ⟨connection.exchange url delivery :: earlier, rfl, ?_⟩, hresult⟩
      intro exchange hmem
      rcases List.mem_cons.1 hmem with rfl | hmem
      · exact ⟨delivery, job, rfl, hanswer, hstatus⟩
      · exact hearlier exchange hmem

theorem hears_waitForJob (hurl : connection.questionUrl jobId = .ok url) {name : String}
    {result : Except ClientError Job}
    (h : (ExceptT.run (connection.waitForJob name jobId)).Hears exchanges (.done result)) :
    ∃ last, connection.AnswersAbout name jobId url exchanges last result := by
  obtain ⟨deadline, hpoll⟩ := hears_instantAfter_bind_inv h
  exact hears_pollUntil hurl hpoll

/-- The output of a command whose job came to something. -/
def jobOutput (jobId : String) (result : Except ClientError Job) :
    Except ClientError CommandOutput :=
  result.map fun job => ⟨some jobId, job.result.getD (.obj [])⟩

/-- What a command hears first is the reply to its submission. -/
theorem exists_submission_of_hears (hurl : Url.parse (connection.urlText command) = .ok url)
    {output : Except ClientError CommandOutput}
    (h : (ExceptT.run (connection.executeRaw command)).Hears exchanges (.done output)) :
    ∃ delivery questions, exchanges = connection.exchange url delivery :: questions := by
  have hsend : ∀ {exchanges : List Exchange} {result : Except ClientError Json},
      (ExceptT.run (connection.send command)).Hears exchanges (.done result) →
        ∃ delivery, exchanges = [connection.exchange url delivery] := by
    intro exchanges result h
    obtain ⟨fault, hfault, -⟩ | ⟨own, delivery, hown, rfl, -⟩ := hears_send h
    · exact absurd (hurl.symm.trans hfault) (by simp)
    · obtain rfl : url = own := Except.ok.inj (hurl.symm.trans hown)
      exact ⟨delivery, rfl⟩
  obtain ⟨error, -, hfirst⟩ | ⟨before, after, body, rfl, hfirst, -⟩ := hears_action_bind_inv h
  · obtain ⟨delivery, rfl⟩ := hsend hfirst
    exact ⟨delivery, [], rfl⟩
  · obtain ⟨delivery, rfl⟩ := hsend hfirst
    exact ⟨delivery, after, rfl⟩

/-- A command that starts a job hears a reply that names it, and then of the job. -/
theorem hears_executeRaw (hasync : command.isAsync = true) {submission : Exchange}
    {questions : List Exchange} {output : Except ClientError CommandOutput} {body : Json}
    (h : (ExceptT.run (connection.executeRaw command)).Hears (submission :: questions)
      (.done output))
    (hbody : connection.reply command submission.delivery = .ok body)
    (hjob : startedJob? body = some jobId) :
    ∃ url last result, connection.questionUrl jobId = .ok url ∧
      connection.AnswersAbout command.name jobId url questions last result ∧
      output = jobOutput jobId result := by
  obtain ⟨error, -, hsend⟩ | ⟨before, after, own, hexchanges, hsend, hnext⟩ :=
    hears_action_bind_inv h
  · obtain ⟨fault, -, hnil, -⟩ | ⟨url, delivery, hurl, hexchange, herror⟩ := hears_send hsend
    · exact absurd hnil (by simp)
    · obtain ⟨rfl, -⟩ := List.cons.inj hexchange
      simp only [reply, hurl] at hbody
      exact absurd (hbody.symm.trans herror.symm) (by simp)
  · obtain ⟨fault, -, -, habsurd⟩ | ⟨url, delivery, hurl, rfl, hown⟩ := hears_send hsend
    · exact absurd habsurd (by simp)
    · obtain ⟨rfl, rfl⟩ := List.cons.inj hexchanges
      simp only [reply, hurl] at hbody
      obtain rfl : body = own := Except.ok.inj (hbody.symm.trans hown.symm)
      -- another query at the same endpoint can be written too
      obtain ⟨questionUrl, hquestion⟩ := Url.exists_parse_of_parse hurl
        (query connection.credentials (Call.jobResult jobId).toCommand)
      simp only [hasync, Bool.not_true, Bool.false_eq_true, if_false, hjob] at hnext
      refine ⟨questionUrl, ?_⟩
      obtain ⟨error, rfl, hwait⟩ | ⟨before, after', job, rfl, hwait, hdone⟩ :=
        hears_action_bind_inv hnext
      · obtain ⟨last, habout⟩ := hears_waitForJob hquestion hwait
        exact ⟨last, _, hquestion, habout, rfl⟩
      · obtain ⟨last, habout⟩ := hears_waitForJob hquestion hwait
        obtain ⟨rfl, rfl⟩ := hears_done_inv hdone
        exact ⟨last, _, hquestion, (List.append_nil before).symm ▸ habout, rfl⟩

end Connection

/-- A command of a batch hears what it hears alone, and its outcome is made of what it comes to. -/
theorem JobRunner.hears_runOne {runner : JobRunner} {index : Nat} {command : Command}
    {exchanges : List Exchange} {outcome : JobOutcome}
    (h : (runner.runOne index command).Hears exchanges (.done outcome)) :
    ∃ output, (ExceptT.run (runner.client.executeRaw command)).Hears exchanges (.done output) ∧
      IsMadeOf runner.table output outcome := by
  cases h with
  | readClock started h =>
    obtain ⟨before, after, output, rfl, hexecute, hrest⟩ := Dialogue.hears_bind_inv h
    cases hrest with
    | readClock ended hrest =>
      obtain ⟨rfl, rfl⟩ := Dialogue.hears_done_inv hrest
      exact ⟨output, (List.append_nil before).symm ▸ hexecute, rfl, rfl, rfl⟩

end ControlPlane
