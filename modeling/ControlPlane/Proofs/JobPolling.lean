import ControlPlane.Proofs.ActionRuns
import ControlPlane.Proofs.ReplyRules
import ControlPlane.Proofs.RequestUrls

/-!
# Waiting for a job

A connection asks about a job, and asks again one interval after an answer, until an answer
decides: an error, or a job that has finished. If the next question would come after the deadline,
it is not put, and the job is overdue. An interval may be so long that the clock cannot represent
when the next question would be; then waiting breaks off instead (`Connection.IsCutShort`).

`Polls` is what waiting consists of: questions about one job, one interval apart. The remaining time
shrinks by an interval at least from one question to the next, however long the answers take, so
their number is bounded by the time and the interval, and every question comes before the deadline
(`asked_of_polls`). For the same reason the number of questions that waiting may put at most is
never used up (`Connection.Suffices`).
-/

namespace ControlPlane

/-! ## Errors of requests -/

/-- The error of a code belongs to no job. -/
theorem ClientError.jobId?_ofCode (command : String) (code : Nat) (reason : String) :
    (ClientError.ofCode command code reason).jobId? = none := by
  unfold ofCode
  split
  · rfl
  · rfl

/-- An error in a reply belongs to no job. -/
theorem Envelope.jobId?_of_decode {command : String} {status : Nat} {text : String}
    {error : ClientError} (h : decode command status text = .error error) :
    error.jobId? = none := by
  rcases error_of_decode h with ⟨code, reason, rfl⟩ | ⟨reason, rfl⟩
  · exact ClientError.jobId?_ofCode ..
  · rfl

/-! ## Failed jobs -/

/-- Code and reason of a failed job are those in its result: the code if it is a number of 16 bits,
the reason if it is a text. -/
structure Job.FailedWith (job : Job) (code : Option Nat) (reason : String) : Prop where
  code_iff : ∀ n : Nat, code = some n ↔
    n ≤ 65535 ∧ job.result.bind (·.get? "errorcode") = some (.num (.whole n))
  given : ∀ text, job.result.bind (·.get? "errortext") = some (.str text) → reason = text
  missing : (∀ text, job.result.bind (·.get? "errortext") ≠ some (.str text)) →
    reason = Job.unexplained

theorem Job.failedWith_error (job : Job) : job.FailedWith job.errorCode? job.errorText := by
  refine ⟨?_, ?_, ?_⟩
  · intro n
    have hread : (job.result.bind (·.get? "errorcode")).bind Json.natural? = some n ↔
        job.result.bind (·.get? "errorcode") = some (.num (.whole n)) := by
      rw [Option.bind_eq_some_iff]
      simp only [Json.natural?_eq_some_iff, exists_eq_right]
    rw [← hread, errorCode?]
    cases hcode : (job.result.bind (·.get? "errorcode")).bind Json.natural? with
    | none => simp
    | some m =>
      by_cases hm : m ≤ Number.greatest16
      · have hm' : m ≤ 65535 := hm
        simp only [if_pos hm, Option.some.injEq]
        omega
      · have hm' : ¬ m ≤ 65535 := hm
        simp only [if_neg hm, Option.some.injEq, reduceCtorEq, false_iff]
        omega
  · intro text htext
    rw [errorText, htext]
    rfl
  · intro hnone
    have hread : (job.result.bind (·.get? "errortext")).bind Json.text? = none := by
      rw [Option.bind_eq_none_iff]
      intro value hvalue
      cases value with
      | str text => exact absurd hvalue (hnone text)
      | num number => rfl
      | null => rfl
      | bool b => rfl
      | arr values => rfl
      | obj members => rfl
    rw [errorText, hread]
    rfl

namespace Connection

variable {σ : Type}

theorem jobId?_of_receive {command : Command} {url : Url} {delivery : Delivery}
    {error : ClientError} (h : receive command url delivery = .error error) :
    error.jobId? = none := by
  cases delivery with
  | reply status body => exact Envelope.jobId?_of_decode h
  | late =>
    rw [receive, Except.error.injEq] at h
    exact h ▸ rfl
  | failed failure =>
    rw [receive, Except.error.injEq] at h
    exact h ▸ rfl

/-! ## One question -/

/-- The request of a question about a job. -/
def questionUrl (connection : Connection) (jobId : String) : Except Url.Fault Url :=
  Url.parse (connection.urlText (Call.jobResult jobId).toCommand)

/-- What one question about a job comes to, and what it leaves behind: at most one request, which
goes out at once. -/
structure IsAsked (connection : Connection) (jobId : String) (world : World σ)
    (answer : Except ClientError Job) (world' : World σ) : Prop where
  run : (connection.queryJob jobId).run world = (some answer, world')
  clock_le : world.clock ≤ world'.clock
  noJob : ∀ error, answer = .error error → error.jobId? = none
  arrivals : ∃ sent : List Arrival, world'.arrivals = sent ++ world.arrivals ∧ sent.length ≤ 1 ∧
    ∀ arrival ∈ sent, (∃ url, connection.questionUrl jobId = .ok url ∧
      arrival.target = url.target) ∧ arrival.arrived = world.clock

theorem exists_isAsked (connection : Connection) (jobId : String) (world : World σ) :
    ∃ answer world', IsAsked connection jobId world answer world' := by
  cases hurl : connection.questionUrl jobId with
  | error fault =>
    have hsend : (connection.send (Call.jobResult jobId).toCommand).run world = _ :=
      run_send_error hurl
    refine ⟨_, world, Action.run_bind_error hsend, Instant.le_refl _, ?_, [], rfl, Nat.zero_le _,
      by simp⟩
    intro error herror
    rw [Except.error.injEq] at herror
    exact herror ▸ rfl
  | ok url =>
    have hsend : (connection.send (Call.jobResult jobId).toCommand).run world = _ :=
      run_send_ok hurl
    have hclock := world.clock_le_afterRequest ⟨url, connection.requestTimeout⟩
    obtain ⟨sent, harrivals, hlength, hsent⟩ :=
      world.arrivals_afterRequest ⟨url, connection.requestTimeout⟩
    have hsent' : ∀ arrival ∈ sent, (∃ url, connection.questionUrl jobId = .ok url ∧
        arrival.target = url.target) ∧ arrival.arrived = world.clock :=
      fun arrival harrival => ⟨⟨url, hurl, (hsent arrival harrival).1⟩, (hsent arrival harrival).2⟩
    cases hreceive : receive (Call.jobResult jobId).toCommand url
        (world.deliver ⟨url, connection.requestTimeout⟩).1 with
    | error error =>
      rw [hreceive] at hsend
      refine ⟨_, _, Action.run_bind_error hsend, hclock, ?_, sent, harrivals, hlength, hsent'⟩
      intro other hother
      rw [Except.error.injEq] at hother
      exact hother ▸ jobId?_of_receive hreceive
    | ok body =>
      rw [hreceive] at hsend
      refine ⟨_, _, Action.run_bind_ok hsend, hclock, ?_, sent, harrivals, hlength, hsent'⟩
      intro error herror
      cases hdecode : Job.ofJson body with
      | ok job =>
        rw [hdecode] at herror
        exact absurd herror (by simp [decoded])
      | error fault =>
        rw [hdecode, decoded, Except.error.injEq] at herror
        exact herror ▸ rfl

/-- What a question comes to is settled by the world. -/
theorem isAsked_unique {connection : Connection} {jobId : String} {world world' world'' : World σ}
    {answer answer' : Except ClientError Job} (h : connection.IsAsked jobId world answer world')
    (h' : connection.IsAsked jobId world answer' world'') :
    answer = answer' ∧ world' = world'' := by
  simpa using h.run.symm.trans h'.run

/-! ## Questions one after another -/

end Connection

/-- A question about a job: when it was put, when it was answered, and how. -/
structure Poll where
  asked : Instant
  answered : Instant
  answer : Except ClientError Job

/-- Whether a job goes on after a question. -/
def Poll.IsPending (poll : Poll) : Prop :=
  ∃ job, poll.answer = .ok job ∧ job.status = .pending

namespace Connection

variable {σ : Type}

/-- Questions about one job, each one interval after the answer to the one before. -/
inductive Polls (connection : Connection) (jobId : String) :
    World σ → List Poll → World σ → Prop
  | last {world world' : World σ} {answer : Except ClientError Job}
    (h : connection.IsAsked jobId world answer world') :
    Polls connection jobId world [⟨world.clock, world'.clock, answer⟩] world'
  | more {world world' world'' : World σ} {answer : Except ClientError Job} {polls : List Poll}
    (h : connection.IsAsked jobId world answer world')
    (rest : Polls connection jobId (world'.after connection.pollInterval) polls world'') :
    Polls connection jobId world (⟨world.clock, world'.clock, answer⟩ :: polls) world''

/-- What the answer to the last question makes of waiting. -/
def verdict (connection : Connection) (command jobId : String) :
    Except ClientError Job → Except ClientError Job
  | .error error => .error error
  | .ok job =>
    match job.status with
    | .succeeded => .ok job
    | .failed => .error (jobFailure jobId job)
    | .pending => .error (connection.jobOverdue command jobId)

/-- Another question is put after each of these. -/
def AskAgain (connection : Connection) (deadline : Instant) (polls : List Poll) : Prop :=
  ∀ poll ∈ polls, poll.IsPending ∧ poll.answered.later connection.pollInterval ≤ deadline

/-- The last of the questions decides, or there is no time for another. -/
def IsDecided (connection : Connection) (deadline : Instant) (poll : Poll) : Prop :=
  poll.IsPending → deadline < poll.answered.later connection.pollInterval

/-- A job goes on, and the clock cannot represent when it would be asked about next. -/
def IsCutShort (connection : Connection) (poll : Poll) : Prop :=
  poll.IsPending ∧ poll.answered.later? connection.pollInterval = none

/-- Nothing more is asked after an answer that decides. -/
theorem run_pollUntil_of_isDecided {connection : Connection} {command jobId : String}
    {deadline : Instant} {world world' : World σ} {answer : Except ClientError Job}
    (hasked : connection.IsAsked jobId world answer world')
    (hdecided : connection.IsDecided deadline ⟨world.clock, world'.clock, answer⟩)
    (hcut : ¬ connection.IsCutShort ⟨world.clock, world'.clock, answer⟩) (limit : Nat) :
    (connection.pollUntil command jobId deadline (limit + 1)).run world =
      (some (connection.verdict command jobId answer), world') := by
  cases answer with
  | error error => exact Action.run_bind_error hasked.run
  | ok job =>
    refine (Action.run_bind_ok hasked.run).trans ?_
    cases hstatus : job.status with
    | succeeded =>
      simp only [hstatus, verdict]
      rfl
    | failed =>
      simp only [hstatus, verdict]
      rfl
    | pending =>
      have hlate := hdecided ⟨job, rfl, hstatus⟩
      cases hnext : world'.clock.later? connection.pollInterval with
      | none => exact absurd ⟨⟨job, rfl, hstatus⟩, hnext⟩ hcut
      | some next =>
        rw [Instant.later_of_later? hnext] at hlate
        simp only [hstatus, verdict, Action.run_bind_ok (Action.run_instantAfter hnext),
          if_pos hlate]
        rfl

/-- Waiting breaks off where the clock cannot represent the next question. -/
theorem run_pollUntil_of_isCutShort {connection : Connection} {command jobId : String}
    {deadline : Instant} {world world' : World σ} {answer : Except ClientError Job}
    (hasked : connection.IsAsked jobId world answer world')
    (hcut : connection.IsCutShort ⟨world.clock, world'.clock, answer⟩) (limit : Nat) :
    (connection.pollUntil command jobId deadline (limit + 1)).run world = (none, world') := by
  obtain ⟨⟨job, rfl, hstatus⟩, hnext⟩ := hcut
  refine (Action.run_bind_ok hasked.run).trans ?_
  simp only [hstatus, Action.run_bind_none (Action.run_instantAfter_none hnext)]

/-- A job that goes on is asked about again after a pause. -/
theorem run_pollUntil_of_pending {connection : Connection} {command jobId : String}
    {deadline : Instant} {world world' : World σ} {job : Job}
    (hasked : connection.IsAsked jobId world (.ok job) world') (hstatus : job.status = .pending)
    (hfits : deadline.fits = true) (hearly : world'.clock.later connection.pollInterval ≤ deadline)
    (limit : Nat) :
    (connection.pollUntil command jobId deadline (limit + 1)).run world =
      (connection.pollUntil command jobId deadline limit).run
        (world'.after connection.spacing) := by
  have hnext := Instant.later?_eq_some (Instant.fits_of_le hfits hearly)
  have hnotLate : ¬ deadline < world'.clock.later connection.pollInterval :=
    Nat.not_lt_of_le hearly
  refine (Action.run_bind_ok hasked.run).trans ?_
  simp only [hstatus, Action.run_bind_ok (Action.run_instantAfter hnext), if_neg hnotLate,
    Action.run_pause_bind]

/-! ### Enough questions -/

theorem pollInterval_le_spacing (connection : Connection) :
    connection.pollInterval.nanoseconds ≤ connection.spacing.nanoseconds := by
  rw [spacing]
  split
  · rename_i hzero
    rw [hzero]
    exact Nat.zero_le _
  · exact Nat.le_refl _

/-- What a pause between two questions is longer than the interval. -/
def slack (connection : Connection) : Duration :=
  ⟨connection.spacing.nanoseconds - connection.pollInterval.nanoseconds⟩

/-- The next question comes by the deadline, but for the slack. -/
theorem later_spacing_le {connection : Connection} {t deadline : Instant}
    (hearly : t.later connection.pollInterval ≤ deadline) :
    t.later connection.spacing ≤ deadline.later connection.slack := by
  have hle : t.nanoseconds + connection.pollInterval.nanoseconds ≤ deadline.nanoseconds := hearly
  show t.nanoseconds + connection.spacing.nanoseconds ≤ deadline.nanoseconds +
    (connection.spacing.nanoseconds - connection.pollInterval.nanoseconds)
  omega

/-- A question is due, and a number of questions from now on, one pause apart, goes beyond the
deadline. -/
structure Suffices (connection : Connection) (deadline now : Instant) (limit : Nat) : Prop where
  due : now ≤ deadline.later connection.slack
  beyond : deadline.later connection.slack <
    now.later ⟨limit * connection.spacing.nanoseconds⟩

theorem not_suffices_zero {connection : Connection} {deadline now : Instant} :
    ¬ connection.Suffices deadline now 0 := by
  rintro ⟨hdue, hbeyond⟩
  have hdue' : now.nanoseconds ≤ (deadline.later connection.slack).nanoseconds := hdue
  have hbeyond' : (deadline.later connection.slack).nanoseconds <
      now.nanoseconds + 0 * connection.spacing.nanoseconds := hbeyond
  omega

/-- The limit suffices when waiting begins. -/
theorem suffices_questionLimit {connection : Connection} {deadline now : Instant}
    (h : now.later? connection.asyncTimeout = some deadline) :
    connection.Suffices deadline now connection.questionLimit := by
  obtain rfl := Instant.later_of_later? h
  refine ⟨Instant.le_trans (Instant.le_later _ _) (Instant.le_later _ _), ?_⟩
  have hpositive : 0 < connection.spacing.nanoseconds := by
    rw [spacing]
    split
    · decide
    · exact Duration.nanoseconds_pos ‹_›
  have hfits : connection.asyncTimeout.nanoseconds < connection.spacing.nanoseconds *
      (connection.asyncTimeout.nanoseconds / connection.spacing.nanoseconds + 1) :=
    Nat.lt_mul_div_succ _ hpositive
  have hslack : connection.slack.nanoseconds ≤ connection.spacing.nanoseconds := Nat.sub_le _ _
  show now.nanoseconds + connection.asyncTimeout.nanoseconds + connection.slack.nanoseconds <
    now.nanoseconds + connection.questionLimit * connection.spacing.nanoseconds
  rw [questionLimit, Nat.mul_comm, Nat.mul_succ]
  omega

/-- After an answer one question less suffices. -/
theorem Suffices.next {connection : Connection} {deadline now answered : Instant} {limit : Nat}
    (h : connection.Suffices deadline now (limit + 1)) (hle : now ≤ answered)
    (hearly : answered.later connection.pollInterval ≤ deadline) :
    connection.Suffices deadline (answered.later connection.spacing) limit := by
  refine ⟨later_spacing_le hearly, Nat.lt_of_lt_of_le h.beyond ?_⟩
  show now.nanoseconds + (limit + 1) * connection.spacing.nanoseconds ≤
    answered.nanoseconds + connection.spacing.nanoseconds + limit * connection.spacing.nanoseconds
  have hle' : now.nanoseconds ≤ answered.nanoseconds := hle
  rw [Nat.succ_mul]
  omega

/-- What waiting comes to after the last question: the verdict on the answer, unless the clock
cannot represent the next question. -/
def Ends (connection : Connection) (command jobId : String) (last : Poll)
    (result? : Option (Except ClientError Job)) : Prop :=
  connection.IsCutShort last ∧ result? = none ∨
    ¬ connection.IsCutShort last ∧ result? = some (connection.verdict command jobId last.answer)

theorem none_iff_of_ends {connection : Connection} {command jobId : String} {last : Poll}
    {result? : Option (Except ClientError Job)} (h : connection.Ends command jobId last result?) :
    result? = none ↔ connection.IsCutShort last := by
  rcases h with ⟨hcut, rfl⟩ | ⟨hcut, rfl⟩
  · exact iff_of_true rfl hcut
  · exact iff_of_false (by simp) hcut

theorem eq_verdict_of_ends {connection : Connection} {command jobId : String} {last : Poll}
    {result? : Option (Except ClientError Job)} {result : Except ClientError Job}
    (h : connection.Ends command jobId last result?) (hresult : result? = some result) :
    result = connection.verdict command jobId last.answer := by
  rcases h with ⟨-, rfl⟩ | ⟨-, rfl⟩
  · exact absurd hresult (by simp)
  · exact (Option.some.inj hresult).symm

/-- What one more question can do: it is the last one, or the job goes on and waiting with it. -/
theorem run_pollUntil_succ {connection : Connection} (command : String) {jobId : String}
    {deadline : Instant} {world world' : World σ} {answer : Except ClientError Job}
    (hfits : deadline.fits = true) (hasked : connection.IsAsked jobId world answer world')
    (limit : Nat) :
    (∃ result?, (connection.pollUntil command jobId deadline (limit + 1)).run world =
        (result?, world') ∧
      connection.IsDecided deadline ⟨world.clock, world'.clock, answer⟩ ∧
      connection.Ends command jobId ⟨world.clock, world'.clock, answer⟩ result?) ∨
    ∃ job, answer = .ok job ∧ job.status = .pending ∧
      world'.clock.later connection.pollInterval ≤ deadline ∧
      (connection.pollUntil command jobId deadline (limit + 1)).run world =
        (connection.pollUntil command jobId deadline limit).run
          (world'.after connection.spacing) := by
  by_cases hagain : ∃ job, answer = .ok job ∧ job.status = .pending ∧
      world'.clock.later connection.pollInterval ≤ deadline
  · obtain ⟨job, rfl, hstatus, hearly⟩ := hagain
    exact .inr ⟨job, rfl, hstatus, hearly,
      run_pollUntil_of_pending hasked hstatus hfits hearly limit⟩
  · have hdecided : connection.IsDecided deadline ⟨world.clock, world'.clock, answer⟩ := by
      rintro ⟨job, hjob, hstatus⟩
      refine Nat.lt_of_not_le ?_
      intro hearly
      exact hagain ⟨job, hjob, hstatus, hearly⟩
    by_cases hcut : connection.IsCutShort ⟨world.clock, world'.clock, answer⟩
    · exact .inl ⟨none, run_pollUntil_of_isCutShort hasked hcut limit, hdecided,
        .inl ⟨hcut, rfl⟩⟩
    · exact .inl ⟨_, run_pollUntil_of_isDecided hasked hdecided hcut limit, hdecided,
        .inr ⟨hcut, rfl⟩⟩

/-- If the limit suffices, waiting is asking until an answer decides. -/
theorem run_pollUntil {connection : Connection} (hinterval : connection.pollInterval ≠ .zero)
    (command jobId : String) {deadline : Instant} {limit : Nat} {world : World σ}
    (hfits : deadline.fits = true) (hlimit : connection.Suffices deadline world.clock limit) :
    ∃ polls last result? world',
      (connection.pollUntil command jobId deadline limit).run world = (result?, world') ∧
      Polls connection jobId world (polls ++ [last]) world' ∧
      connection.AskAgain deadline polls ∧ connection.IsDecided deadline last ∧
      connection.Ends command jobId last result? := by
  induction limit generalizing world with
  | zero => exact absurd hlimit not_suffices_zero
  | succ limit ih =>
    obtain ⟨answer, world', hasked⟩ := exists_isAsked connection jobId world
    rcases run_pollUntil_succ command hfits hasked limit with
      ⟨result?, hrun, hdecided, hends⟩ | ⟨job, rfl, hstatus, hearly, hrun⟩
    · exact ⟨[], _, result?, world', hrun, .last hasked, by simp [AskAgain], hdecided, hends⟩
    · have hspacing : connection.spacing = connection.pollInterval := if_neg hinterval
      obtain ⟨polls, last, result?, world'', hrest, hpolls, hask, hdecided, hends⟩ :=
        @ih (world'.after connection.spacing) (hlimit.next hasked.clock_le hearly)
      rw [hspacing] at hpolls
      refine ⟨⟨world.clock, world'.clock, .ok job⟩ :: polls, last, result?, world'',
        hrun.trans hrest, .more hasked hpolls, ?_, hdecided, hends⟩
      intro poll hpoll
      rcases List.mem_cons.1 hpoll with rfl | hpoll
      · exact ⟨⟨job, rfl, hstatus⟩, hearly⟩
      · exact hask poll hpoll

/-! ## What the questions amount to -/

/-- The first of some questions is put at once, and the others an interval after its answer. -/
theorem first_of_polls {connection : Connection} {jobId : String} {poll : Poll} {polls : List Poll}
    {world world'' : World σ} (h : Polls connection jobId world (poll :: polls) world'') :
    ∃ answer world', connection.IsAsked jobId world answer world' ∧
      poll = ⟨world.clock, world'.clock, answer⟩ ∧
      (polls = [] ∧ world'' = world' ∨
        Polls connection jobId (world'.after connection.pollInterval) polls world'') := by
  cases h with
  | last hasked => exact ⟨_, _, hasked, rfl, Or.inl ⟨rfl, rfl⟩⟩
  | more hasked hrest => exact ⟨_, _, hasked, rfl, Or.inr hrest⟩

/-- The answer to the first of them does not depend on what is asked after it. -/
theorem answer_of_polls {connection : Connection} {jobId : String} {poll : Poll} {polls : List Poll}
    {world world' world'' : World σ} {answer : Except ClientError Job}
    (h : Polls connection jobId world (poll :: polls) world'')
    (hasked : connection.IsAsked jobId world answer world') : poll.answer = answer := by
  obtain ⟨answer', _, hasked', rfl, -⟩ := first_of_polls h
  exact (isAsked_unique hasked' hasked).1

/-- However long the answers take, the questions before the last one use up an interval each, and
every question comes before the deadline. -/
theorem asked_of_polls {connection : Connection} {jobId : String} {deadline : Instant}
    {polls : List Poll} {last : Poll} {world world' : World σ}
    (h : Polls connection jobId world (polls ++ [last]) world') (hclock : world.clock ≤ deadline)
    (hask : connection.AskAgain deadline polls) :
    polls.length * connection.pollInterval.nanoseconds ≤
        deadline.nanoseconds - world.clock.nanoseconds ∧
      ∀ poll ∈ polls ++ [last], poll.asked ≤ deadline := by
  induction polls generalizing world with
  | nil =>
    refine ⟨by simp, ?_⟩
    intro poll hpoll
    obtain ⟨_, _, -, rfl, -⟩ := first_of_polls h
    rw [List.mem_singleton.1 hpoll]
    exact hclock
  | cons first polls ih =>
    obtain ⟨answer, world₁, hasked, rfl, hend | hrest⟩ := first_of_polls h
    · exact absurd hend.1 (by simp)
    · obtain ⟨-, hearly⟩ := hask _ (List.mem_cons_self ..)
      obtain ⟨hcount, hrestAsked⟩ :=
        ih hrest hearly fun poll hpoll => hask poll (List.mem_cons_of_mem _ hpoll)
      refine ⟨?_, ?_⟩
      · have hlater : world.clock.nanoseconds ≤ world₁.clock.nanoseconds := hasked.clock_le
        have hearly' : world₁.clock.nanoseconds + connection.pollInterval.nanoseconds ≤
            deadline.nanoseconds := hearly
        have hclock' : (world₁.after connection.pollInterval).clock.nanoseconds =
            world₁.clock.nanoseconds + connection.pollInterval.nanoseconds := rfl
        rw [hclock'] at hcount
        rw [List.length_cons, Nat.succ_mul]
        omega
      · intro poll hpoll
        rcases List.mem_cons.1 hpoll with rfl | hpoll
        · exact hclock
        · exact hrestAsked poll hpoll

/-- What the questions leave behind: at most one request each, put when the question was. -/
theorem arrivals_of_polls {connection : Connection} {jobId : String} {polls : List Poll}
    {world world' : World σ} (h : Polls connection jobId world polls world') :
    ∃ sent : List Arrival, world'.arrivals = sent ++ world.arrivals ∧
      sent.length ≤ polls.length ∧
      ∀ arrival ∈ sent, (∃ url, connection.questionUrl jobId = .ok url ∧
        arrival.target = url.target) ∧ ∃ poll ∈ polls, arrival.arrived = poll.asked := by
  induction h with
  | last hasked =>
    obtain ⟨sent, harrivals, hlength, hsent⟩ := hasked.arrivals
    refine ⟨sent, harrivals, hlength, ?_⟩
    intro arrival harrival
    obtain ⟨htarget, harrived⟩ := hsent arrival harrival
    exact ⟨htarget, _, List.mem_cons_self .., harrived⟩
  | more hasked _ ih =>
    obtain ⟨sent, harrivals, hlength, hsent⟩ := hasked.arrivals
    obtain ⟨later, hlater, hlaterLength, hlaterSent⟩ := ih
    refine ⟨later ++ sent, ?_, ?_, ?_⟩
    · rw [hlater, List.append_assoc, ← harrivals]
      rfl
    · rw [List.length_append, List.length_cons]
      omega
    · intro arrival harrival
      rcases List.mem_append.1 harrival with harrival | harrival
      · obtain ⟨htarget, poll, hpoll, harrived⟩ := hlaterSent arrival harrival
        exact ⟨htarget, poll, List.mem_cons_of_mem _ hpoll, harrived⟩
      · obtain ⟨htarget, harrived⟩ := hsent arrival harrival
        exact ⟨htarget, _, List.mem_cons_self .., harrived⟩

/-- An error that answers a question belongs to no job. -/
theorem jobId?_of_polls {connection : Connection} {jobId : String} {polls : List Poll}
    {world world' : World σ} (h : Polls connection jobId world polls world') :
    ∀ poll ∈ polls, ∀ error, poll.answer = .error error → error.jobId? = none := by
  induction h with
  | last hasked =>
    intro poll hpoll
    rw [List.mem_singleton.1 hpoll]
    exact hasked.noJob
  | more hasked _ ih =>
    intro poll hpoll
    rcases List.mem_cons.1 hpoll with rfl | hpoll
    · exact hasked.noJob
    · exact ih poll hpoll

/-! ## Waiting -/

/-- What waiting ends with follows from the answer to the last question: an error is passed on, a
job that succeeded is the result, one that failed is an error with its code and reason, and one
that goes on is overdue, which is said of no other. -/
structure Concludes (connection : Connection) (jobId : String) (deadline : Instant) (last : Poll)
    (result : Except ClientError Job) : Prop where
  passedOn : ∀ error, last.answer = .error error → result = .error error
  succeeded : ∀ job, last.answer = .ok job → job.status = .succeeded → result = .ok job
  failed : ∀ job, last.answer = .ok job → job.status = .failed →
    ∃ code reason, result = .error (.jobFailed jobId code reason) ∧ job.FailedWith code reason
  pending : last.IsPending → ∃ reason, result = .error (.jobTimedOut jobId reason)
  overdue : ∀ id reason, result = .error (.jobTimedOut id reason) →
    id = jobId ∧ last.IsPending ∧ deadline < last.answered.later connection.pollInterval

theorem concludes_verdict {connection : Connection} {deadline : Instant} {last : Poll}
    (command jobId : String) (hdecided : connection.IsDecided deadline last)
    (hnoJob : ∀ error, last.answer = .error error → error.jobId? = none) :
    connection.Concludes jobId deadline last (connection.verdict command jobId last.answer) := by
  refine ⟨?_, ?_, ?_, ?_, ?_⟩
  · intro error herror
    rw [herror, verdict]
  · intro job hjob hstatus
    rw [hjob, verdict, hstatus]
  · intro job hjob hstatus
    refine ⟨job.errorCode?, job.errorText, ?_, job.failedWith_error⟩
    rw [hjob, verdict, hstatus, jobFailure]
  · rintro ⟨job, hjob, hstatus⟩
    exact ⟨_, by rw [hjob, verdict, hstatus, jobOverdue]⟩
  · intro id reason hresult
    cases hanswer : last.answer with
    | error error =>
      rw [hanswer, verdict, Except.error.injEq] at hresult
      have hnone := hnoJob error hanswer
      rw [hresult] at hnone
      exact absurd hnone (by simp [ClientError.jobId?])
    | ok job =>
      rw [hanswer, verdict] at hresult
      cases hstatus : job.status with
      | succeeded =>
        rw [hstatus] at hresult
        exact absurd hresult (by simp)
      | failed =>
        rw [hstatus, jobFailure] at hresult
        exact absurd hresult (by simp)
      | pending =>
        rw [hstatus, jobOverdue, Except.error.injEq, ClientError.jobTimedOut.injEq] at hresult
        have hpending : last.IsPending := ⟨job, hanswer, hstatus⟩
        exact ⟨hresult.1.symm, hpending, hdecided hpending⟩

/-- Waiting for a job ends: at the first answer that decides, or when the next question would come
after the deadline. Until then every answer says that the job goes on. The questions are no more
than fit into the time, each comes before the deadline, and nothing else is requested. There is a
result unless the clock cannot represent when the next question would be. -/
theorem waitForJob_concludes (connection : Connection) (command jobId : String) (world : World σ)
    {deadline : Instant} (hinterval : connection.pollInterval ≠ .zero)
    (hdeadline : world.clock.later? connection.asyncTimeout = some deadline) :
    ∃ polls last result? world',
      (connection.waitForJob command jobId).run world = (result?, world') ∧
      Polls connection jobId world (polls ++ [last]) world' ∧
      (polls ++ [last]).length ≤
        connection.asyncTimeout.nanoseconds / connection.pollInterval.nanoseconds + 1 ∧
      (∀ poll ∈ polls ++ [last], poll.asked ≤ world.clock.later connection.asyncTimeout) ∧
      connection.AskAgain deadline polls ∧
      (result? = none ↔ connection.IsCutShort last) ∧
      (∀ result, result? = some result → connection.Concludes jobId deadline last result) ∧
      ∃ sent : List Arrival, world'.arrivals = sent ++ world.arrivals ∧
        sent.length ≤ (polls ++ [last]).length ∧
        ∀ arrival ∈ sent, (∃ url, connection.questionUrl jobId = .ok url ∧
          arrival.target = url.target) ∧ arrival.arrived ≤ deadline := by
  have hlater := Instant.later_of_later? hdeadline
  have hclock : world.clock ≤ deadline := hlater ▸ Instant.le_later _ _
  have htime : deadline.nanoseconds - world.clock.nanoseconds =
      connection.asyncTimeout.nanoseconds := by
    rw [← hlater]
    exact Nat.add_sub_cancel_left ..
  have hpositive := Duration.nanoseconds_pos hinterval
  obtain ⟨polls, last, result?, world', hrun, hpolls, hask, hdecided, hends⟩ :=
    run_pollUntil hinterval command jobId (Instant.fits_of_later? hdeadline)
      (suffices_questionLimit hdeadline)
  obtain ⟨hcount, hasked⟩ := asked_of_polls hpolls hclock hask
  obtain ⟨sent, harrivals, hlength, hsent⟩ := arrivals_of_polls hpolls
  have hconcludes := concludes_verdict command jobId hdecided
    (jobId?_of_polls hpolls last (List.mem_append_right _ (List.mem_singleton_self last)))
  have hwait : (connection.waitForJob command jobId).run world = (result?, world') := by
    rw [waitForJob, Action.run_bind_ok (Action.run_instantAfter hdeadline)]
    exact hrun
  refine ⟨polls, last, result?, world', hwait, hpolls, ?_, hlater.symm ▸ hasked, hask,
    none_iff_of_ends hends, ?_, sent, harrivals, hlength, ?_⟩
  · rw [List.length_append, List.length_singleton]
    refine Nat.succ_le_succ ((Nat.le_div_iff_mul_le hpositive).2 ?_)
    rw [← htime]
    exact hcount
  · intro result hresult
    rw [eq_verdict_of_ends hends hresult]
    exact hconcludes
  · intro arrival harrival
    obtain ⟨htarget, poll, hpoll, harrived⟩ := hsent arrival harrival
    exact ⟨htarget, harrived ▸ hasked poll hpoll⟩

/-! ### A server that says the same each time -/

/-- A connection that waits a minute for a job. -/
def minuteConnection (interval : Duration) : Connection :=
  ⟨"http://10.0.0.1:8096/", .integration, "", "", .ofSeconds 30, .ofSeconds 60, interval⟩

/-- A server that takes five milliseconds for a request and gives every one the same reply. -/
def promptWorld (reply : String) : World Unit :=
  ⟨⟨0⟩, fun _ _ => (⟨.ofMilliseconds 5, some (200, reply)⟩, ()), (), .up, fun _ => .last 61, 0,
    []⟩

/-- A reply that says how far a job is. -/
def progressReply (status : String) : String :=
  "\x7b\"jobid\":\"j-1\",\"jobstatus\":" ++ status ++ "\x7d"

theorem deliver_promptWorld (reply : String) (url : Url) :
    ((promptWorld reply).deliver ⟨url, .ofSeconds 30⟩).1 = .reply 200 reply ∧
      ((promptWorld reply).afterRequest ⟨url, .ofSeconds 30⟩).clock = ⟨5000000⟩ := by
  obtain ⟨hdelivery, hspan⟩ := @World.deliver_of_reply _ ⟨url, .ofSeconds 30⟩ (promptWorld reply)
    (.ofMilliseconds 5) 200 reply () rfl rfl
    (show Duration.ofMilliseconds 5 ≤ .ofSeconds 30 by decide)
  refine ⟨hdelivery, ?_⟩
  rw [World.afterRequest, hspan]
  exact congrArg (Instant.later · (.ofMilliseconds 5)) (World.clock_deliver _ (promptWorld reply))

/-- A job without a result. -/
def jobAt (status : JobStatus) : Job := ⟨"j-1", status, none, none, none, none, none⟩

theorem isAsked_promptWorld (interval : Duration) {reply : String} {status : JobStatus}
    {body : Json} (hread : Envelope.decode "queryAsyncJobResult" 200 reply = .ok body)
    (hjob : Job.ofJson body = .ok (jobAt status)) :
    ∃ world', (minuteConnection interval).IsAsked "j-1" (promptWorld reply) (.ok (jobAt status))
      world' ∧ world'.clock = ⟨5000000⟩ := by
  obtain ⟨url, hurl⟩ : ∃ url, Url.parse ((minuteConnection interval).urlText
      (jobQuestion "j-1")) = .ok url :=
    Url.exists_parse_of_parse
      (show Url.parse ("http://10.0.0.1:8096/" ++ "?" ++ "") = .ok _ from rfl) _
  obtain ⟨answer, world', hasked⟩ :=
    exists_isAsked (minuteConnection interval) "j-1" (promptWorld reply)
  have hsend : ((minuteConnection interval).send (jobQuestion "j-1")).run (promptWorld reply) =
      (some (.ok body), (promptWorld reply).afterRequest ⟨url, .ofSeconds 30⟩) := by
    rw [run_send_ok hurl]
    refine congrArg (fun answer => (some answer, _)) (Eq.trans ?_ hread)
    exact congrArg (receive (jobQuestion "j-1") url) (deliver_promptWorld reply url).1
  have hrun := hasked.run.symm.trans (Action.run_bind_ok hsend)
  rw [hjob] at hrun
  obtain ⟨rfl, rfl⟩ : answer = .ok (jobAt status) ∧
      world' = (promptWorld reply).afterRequest ⟨url, .ofSeconds 30⟩ := by
    simpa [decoded, Action.ofExcept, Action.run, Dialogue.run] using hrun
  exact ⟨_, hasked, (deliver_promptWorld reply url).2⟩

/-- A job that has succeeded when it is first asked about, and may be asked about every second. -/
theorem exists_concluded_wait :
    ∃ world' : World Unit,
      ((minuteConnection (.ofSeconds 1)).waitForJob "deployVirtualMachine" "j-1").run
        (promptWorld (progressReply "1")) = (some (.ok (jobAt .succeeded)), world') := by
  obtain ⟨polls, last, result?, world', hrun, hpolls, -, -, hagain, hnone, hconcludes, -⟩ :=
    waitForJob_concludes (minuteConnection (.ofSeconds 1)) "deployVirtualMachine" "j-1"
      (promptWorld (progressReply "1")) (by decide)
      (show Instant.later? ⟨0⟩ (.ofSeconds 60) = some ⟨60000000000⟩ by decide)
  obtain ⟨world₁, hasked, -⟩ := isAsked_promptWorld (.ofSeconds 1)
    (show Envelope.decode "queryAsyncJobResult" 200 (progressReply "1") =
      .ok (.obj [("jobid", .str "j-1"), ("jobstatus", .num (.whole 1))]) from rfl)
    (show Job.ofJson _ = .ok (jobAt .succeeded) from rfl)
  -- the first answer decides, so it is the last
  obtain rfl : polls = [] := by
    refine List.eq_nil_iff_forall_not_mem.2 ?_
    cases polls with
    | nil => simp
    | cons first polls =>
      obtain ⟨⟨job, hjob, hpending⟩, -⟩ := hagain first (List.mem_cons_self ..)
      rw [answer_of_polls hpolls hasked, Except.ok.injEq] at hjob
      exact absurd (hjob ▸ hpending) (by decide)
  have hanswer := answer_of_polls hpolls hasked
  cases result? with
  | none =>
    obtain ⟨⟨job, hjob, hpending⟩, -⟩ := hnone.1 rfl
    rw [hanswer, Except.ok.injEq] at hjob
    exact absurd (hjob ▸ hpending) (by decide)
  | some result =>
    rw [(hconcludes result rfl).succeeded _ hanswer rfl] at hrun
    exact ⟨world', hrun⟩

/-- With the longest interval there is, a job that goes on when it is first asked about is not
overdue, although the deadline comes before the next question: the clock cannot represent when that
would be, and waiting breaks off. -/
theorem exists_wait_cut_short :
    (Duration.mk 18446744073709551615999999999).fits = true ∧
    ∃ (deadline : Instant) (world' : World Unit),
      (promptWorld (progressReply "0")).clock.later? (.ofSeconds 60) = some deadline ∧
      ((minuteConnection ⟨18446744073709551615999999999⟩).queryJob "j-1").run
        (promptWorld (progressReply "0")) = (some (.ok (jobAt .pending)), world') ∧
      deadline < world'.clock.later ⟨18446744073709551615999999999⟩ ∧
      ((minuteConnection ⟨18446744073709551615999999999⟩).waitForJob "deployVirtualMachine"
        "j-1").run (promptWorld (progressReply "0")) = (none, world') := by
  obtain ⟨world', hasked, hclock⟩ := isAsked_promptWorld ⟨18446744073709551615999999999⟩
    (show Envelope.decode "queryAsyncJobResult" 200 (progressReply "0") =
      .ok (.obj [("jobid", .str "j-1"), ("jobstatus", .num (.whole 0))]) from rfl)
    (show Job.ofJson _ = .ok (jobAt .pending) from rfl)
  have hdeadline : (promptWorld (progressReply "0")).clock.later? (.ofSeconds 60) =
      some ⟨60000000000⟩ := by decide
  refine ⟨by decide, _, world', hdeadline, hasked.run, by rw [hclock]; decide, ?_⟩
  rw [waitForJob]
  refine (Action.run_bind_ok (Action.run_instantAfter hdeadline)).trans ?_
  refine run_pollUntil_of_isCutShort hasked ⟨⟨_, rfl, rfl⟩, ?_⟩ 1
  simp only [hclock]
  decide

end Connection

end ControlPlane
