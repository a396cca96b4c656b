import ControlPlane.Proofs.HeardReplies
import ControlPlane.Proofs.UntypedCommands

/-!
# Commands that start a job

A command that starts a job is attempted once. If the reply names the job, all that follows is
questions about it: every answer but the last says that the job goes on, and the last one decides.
`Protocol.Starts` says so of the attempts, and what they come to follows from them
(`Protocol.starts_unique`).

The command breaks off if the clock cannot represent the time until which the job is waited for, or
the time of the next question about a job that goes on; `Connection.LeftOpen` says so of the
attempts and of the time at which they end. In every world the command keeps to its protocol or is
left open, and never both (`Connection.exists_starts_executeRaw`).
-/

namespace ControlPlane

/-! ## Breaking off -/

/-- Nothing is exchanged after a dialogue has broken off. -/
theorem Dialogue.exchanges_bind_of_broken {α β σ : Type} {d : Dialogue α} {world : World σ}
    (h : (d.run world).1 = none) (f : α → Dialogue β) :
    (d.bind f).exchanges world = d.exchanges world := by
  induction d generalizing world with
  | done a => exact absurd h (by simp)
  | broken => rfl
  | send request next ih => exact congrArg (_ :: ·) (ih _ h)
  | readClock next ih => exact ih _ h
  | wait span next ih => exact ih h
  | draw next ih => exact ih _ h

namespace Connection

variable {σ α β : Type}

/-- A dialogue consists of these attempts, and then breaks off in this world. -/
structure BreaksOff (connection : Connection) (d : Dialogue α) (world : World σ)
    (attempts : List Attempt) (world' : World σ) : Prop where
  run : d.run world = (none, world')
  exchanges : d.exchanges world = attempts.flatMap connection.exchanged

theorem breaksOff_bind {connection : Connection} {action : Action α} {world world' : World σ}
    {attempts : List Attempt} (h : connection.BreaksOff (ExceptT.run action) world attempts world')
    (f : α → Action β) :
    connection.BreaksOff (ExceptT.run (action >>= f)) world attempts world' := by
  have hbind : ExceptT.run (action >>= f) =
      (ExceptT.run action).bind fun result => ExceptT.bindCont f result := rfl
  rw [hbind]
  refine ⟨by rw [Dialogue.run_bind, h.run], ?_⟩
  rw [Dialogue.exchanges_bind_of_broken (congrArg Prod.fst h.run), h.exchanges]

/-- A dialogue makes these attempts, and then it is another one. -/
structure LeadsTo (connection : Connection) (d : Dialogue α) (world : World σ)
    (attempts : List Attempt) (rest : Dialogue α) (world' : World σ) : Prop where
  run : d.run world = rest.run world'
  exchanges : d.exchanges world = attempts.flatMap connection.exchanged ++ rest.exchanges world'

section LeadsTo

variable {connection : Connection} {d rest : Dialogue α} {world world' world'' : World σ}
  {attempts more : List Attempt}

theorem leadsTo_bind_ok {action : Action α} {f : α → Action β} {a : α}
    (h : connection.Conducts (ExceptT.run action) world attempts (.ok a) world') :
    connection.LeadsTo (ExceptT.run (action >>= f)) world attempts (ExceptT.run (f a)) world' := by
  refine ⟨Action.run_bind_ok (f := f) h.run, ?_⟩
  rw [← h.exchanges]
  exact Dialogue.exchanges_bind h.run (ExceptT.bindCont f)

theorem leadsTo_pause_bind {span : Duration} {f : Unit → Action α} :
    connection.LeadsTo (ExceptT.run (Action.ofDialogue (Dialogue.pause span) >>= f)) world []
      (ExceptT.run (f ())) (world.after span) := ⟨rfl, rfl⟩

/-- What comes between may exchange nothing. -/
theorem LeadsTo.trans_silent {last : Dialogue α}
    (h : connection.LeadsTo d world attempts rest world')
    (hrest : connection.LeadsTo rest world' [] last world'') :
    connection.LeadsTo d world attempts last world'' := by
  refine ⟨h.run.trans hrest.run, ?_⟩
  rw [h.exchanges, hrest.exchanges]
  rfl

theorem LeadsTo.conducts {a : α} (h : connection.LeadsTo d world attempts rest world')
    (hrest : connection.Conducts rest world' more a world'') :
    connection.Conducts d world (attempts ++ more) a world'' := by
  refine ⟨h.run.trans hrest.run, ?_⟩
  rw [h.exchanges, hrest.exchanges, List.flatMap_append]

theorem LeadsTo.breaksOff (h : connection.LeadsTo d world attempts rest world')
    (hrest : connection.BreaksOff rest world' more world'') :
    connection.BreaksOff d world (attempts ++ more) world'' := by
  refine ⟨h.run.trans hrest.run, ?_⟩
  rw [h.exchanges, hrest.exchanges, List.flatMap_append]

end LeadsTo

/-- The clock says nothing but how late it is. -/
theorem exchanges_instantAfter (span : Duration) (world : World σ) :
    (ExceptT.run (Action.instantAfter span)).exchanges world = [] := by
  simp only [Action.instantAfter, ExceptT.run_mk, Dialogue.exchanges]
  cases world.clock.later? span with
  | none => rfl
  | some instant => rfl

theorem leadsTo_instantAfter_bind {connection : Connection} {span : Duration}
    {f : Instant → Action α} {world : World σ} {instant : Instant}
    (h : world.clock.later? span = some instant) :
    connection.LeadsTo (ExceptT.run (Action.instantAfter span >>= f)) world []
      (ExceptT.run (f instant)) world := by
  have hstart : connection.Conducts (ExceptT.run (Action.instantAfter span)) world []
      (.ok instant) world := ⟨Action.run_instantAfter h, exchanges_instantAfter span world⟩
  exact leadsTo_bind_ok hstart

theorem breaksOff_instantAfter_bind {connection : Connection} {span : Duration}
    {f : Instant → Action α} {world : World σ} (h : world.clock.later? span = none) :
    connection.BreaksOff (ExceptT.run (Action.instantAfter span >>= f)) world [] world := by
  have hbroken : connection.BreaksOff (ExceptT.run (Action.instantAfter span)) world [] world :=
    ⟨Action.run_instantAfter_none h, exchanges_instantAfter span world⟩
  exact breaksOff_bind hbroken f

/-! ## What the attempts may be -/

/-- A job goes on after a question about it. -/
def GoesOn (connection : Connection) (jobId : String) (delivery : Delivery) : Prop :=
  ∃ job, connection.answer (.jobResult jobId) delivery = .ok job ∧ job.status = .pending

/-- The attempts of questions about a job. -/
def questions (jobId : String) (answers : List Delivery) : List Attempt :=
  answers.map (Attempt.mk (.jobResult jobId))

/-- The error of a reply that should have named a job. -/
def jobUnnamed (name : String) : ClientError :=
  .invalidResponse (name ++ " is async but returned no jobid")

/-- A job goes on after all questions about it, and the clock cannot represent the time of the next
one. -/
structure Interrupted (connection : Connection) (jobId : String) (answers : List Delivery)
    (clock : Instant) : Prop where
  asked : answers ≠ []
  goesOn : ∀ answer ∈ answers, connection.GoesOn jobId answer
  clock : clock.later? connection.pollInterval = none

/-- A command is left open after its submission has named a job: the clock cannot represent until
when the job is waited for, or it interrupts the questions about the job. -/
def LeftOpen (connection : Connection) (call : Call α) (attempts : List Attempt)
    (clock : Instant) : Prop :=
  ∃ submission body jobId answers, attempts = ⟨call, submission⟩ :: questions jobId answers ∧
    connection.reply call.toCommand submission = .ok body ∧ startedJob? body = some jobId ∧
    (answers = [] ∧ clock.later? connection.asyncTimeout = none ∨
      connection.Interrupted jobId answers clock)

theorem LeftOpen.of_cons {connection : Connection} {call : Call α} {submission : Delivery}
    {more : List Attempt} {clock : Instant}
    (h : connection.LeftOpen call (⟨call, submission⟩ :: more) clock) :
    ∃ body jobId answers, more = questions jobId answers ∧
      connection.reply call.toCommand submission = .ok body ∧ startedJob? body = some jobId ∧
      (answers = [] ∧ clock.later? connection.asyncTimeout = none ∨
        connection.Interrupted jobId answers clock) := by
  obtain ⟨_, body, jobId, answers, hattempts, hrest⟩ := h
  obtain ⟨hsubmission, rfl⟩ := List.cons.inj hattempts
  obtain rfl := congrArg Attempt.delivery hsubmission
  exact ⟨body, jobId, answers, rfl, hrest⟩

end Connection

namespace Protocol

variable {α : Type}

/-- Questions about a job that goes on after all of them but the last, which decides. -/
inductive Watches (connection : Connection) (name jobId : String) : Protocol Job
  | intro (earlier : List Delivery) (last : Delivery)
    (hearlier : ∀ delivery ∈ earlier, connection.GoesOn jobId delivery) :
    Watches connection name jobId (Connection.questions jobId (earlier ++ [last]))
      (connection.verdict name jobId (connection.answer (.jobResult jobId) last))

/-- One attempt at a call, and questions about the job that its reply names. -/
inductive Starts (connection : Connection) (call : Call α) : Protocol CommandOutput
  | refused {submission : Delivery} {error : ClientError}
    (h : connection.reply call.toCommand submission = .error error) :
    Starts connection call [⟨call, submission⟩] (.error error)
  | unnamed {submission : Delivery} {body : Json}
    (h : connection.reply call.toCommand submission = .ok body)
    (hjob : Connection.startedJob? body = none) :
    Starts connection call [⟨call, submission⟩] (.error (Connection.jobUnnamed call.name))
  | watched {submission : Delivery} {body : Json} {jobId : String} {questions : List Attempt}
    {result : Except ClientError Job}
    (h : connection.reply call.toCommand submission = .ok body)
    (hjob : Connection.startedJob? body = some jobId)
    (hwatches : Watches connection call.name jobId questions result) :
    Starts connection call (⟨call, submission⟩ :: questions) (Connection.jobOutput jobId result)

theorem questions_injective {jobId : String} {answers answers' : List Delivery}
    (h : Connection.questions jobId answers = Connection.questions jobId answers') :
    answers = answers' := by
  refine List.map_injective_iff.2 ?_ h
  intro delivery delivery' hattempt
  exact congrArg Attempt.delivery hattempt

theorem ne_nil_of_watches {connection : Connection} {name jobId : String}
    {attempts : List Attempt} {result : Except ClientError Job}
    (h : Watches connection name jobId attempts result) : attempts ≠ [] := by
  cases h with
  | intro earlier last => simp [Connection.questions]

/-- The answers to the questions about a job settle what watching it comes to. -/
theorem watches_unique {connection : Connection} {name jobId : String} {attempts : List Attempt}
    {result result' : Except ClientError Job} (h : Watches connection name jobId attempts result)
    (h' : Watches connection name jobId attempts result') : result = result' := by
  obtain ⟨earlier, last, -⟩ := h
  generalize hattempts : Connection.questions jobId (earlier ++ [last]) = attempts at h'
  obtain ⟨earlier', last', -⟩ := h'
  obtain ⟨-, hlast⟩ := List.append_inj' (questions_injective hattempts) rfl
  rw [List.cons.inj hlast |>.1]

/-- The reply and the answers settle what a command that starts a job comes to. -/
theorem starts_unique {connection : Connection} {call : Call α} {attempts : List Attempt}
    {result result' : Except ClientError CommandOutput} (h : Starts connection call attempts result)
    (h' : Starts connection call attempts result') : result = result' := by
  cases h with
  | refused h =>
    cases h' with
    | refused h' => exact congrArg _ (Except.error.inj (h.symm.trans h'))
    | unnamed h' => exact absurd (h.symm.trans h') (by simp)
    | watched h' => exact absurd (h.symm.trans h') (by simp)
  | unnamed h hjob =>
    cases h' with
    | refused h' => exact absurd (h.symm.trans h') (by simp)
    | unnamed => rfl
    | watched h' hjob' hwatches => exact absurd rfl (ne_nil_of_watches hwatches)
  | watched h hjob hwatches =>
    cases h' with
    | refused h' => exact absurd (h.symm.trans h') (by simp)
    | unnamed => exact absurd rfl (ne_nil_of_watches hwatches)
    | watched h' hjob' hwatches' =>
      obtain rfl := Except.ok.inj (h.symm.trans h')
      obtain rfl := Option.some.inj (hjob.symm.trans hjob')
      rw [watches_unique hwatches hwatches']

end Protocol

/-! ## What they are -/

namespace Connection

variable {σ α : Type}

/-- All requests of a connection can be written if one of them can. -/
theorem exists_exchanged_of_parse {connection : Connection} {command : Command} {url : Url}
    (h : Url.parse (connection.urlText command) = .ok url) (attempt : Attempt) :
    ∃ url, connection.exchanged attempt =
      [⟨⟨url, connection.requestTimeout⟩, attempt.delivery⟩] := by
  obtain ⟨url', hurl⟩ :=
    Url.exists_parse_of_parse h (query connection.credentials attempt.call.toCommand)
  rw [← urlText] at hurl
  exact ⟨url', by rw [exchanged, hurl]⟩

/-- A question about a job is one attempt. -/
theorem exists_conducts_queryJob (connection : Connection) (jobId : String) (world : World σ) :
    ∃ delivery world', connection.Conducts (ExceptT.run (connection.queryJob jobId)) world
      (questions jobId [delivery]) (connection.answer (.jobResult jobId) delivery) world' := by
  have hexecute : connection.execute (Call.jobResult jobId) = connection.queryJob jobId :=
    @execute_of_not_isAsync _ connection (Call.jobResult jobId) rfl
  rw [← hexecute]
  exact @exists_conducts_execute _ _ connection (Call.jobResult jobId) rfl world

/-- After a question the answer decides, or the job goes on. Then the clock interrupts the
questions, or waiting goes on with the job. -/
theorem pollUntil_cases {connection : Connection} {jobId : String} (name : String)
    (deadline : Instant) (limit : Nat) {world world' : World σ} {delivery : Delivery}
    (h : connection.Conducts (ExceptT.run (connection.queryJob jobId)) world
      (questions jobId [delivery]) (connection.answer (.jobResult jobId) delivery) world') :
    connection.Conducts (ExceptT.run (connection.pollUntil name jobId deadline (limit + 1))) world
        (questions jobId [delivery])
        (connection.verdict name jobId (connection.answer (.jobResult jobId) delivery)) world' ∧
        ¬ connection.Interrupted jobId [delivery] world'.clock ∨
      connection.BreaksOff (ExceptT.run (connection.pollUntil name jobId deadline (limit + 1)))
        world (questions jobId [delivery]) world' ∧
        connection.Interrupted jobId [delivery] world'.clock ∨
      connection.GoesOn jobId delivery ∧
        world'.clock.later connection.pollInterval ≤ deadline ∧
        connection.LeadsTo (ExceptT.run (connection.pollUntil name jobId deadline (limit + 1)))
          world (questions jobId [delivery])
          (ExceptT.run (connection.pollUntil name jobId deadline limit))
          (world'.after connection.spacing) := by
  have hdecides : ¬ connection.GoesOn jobId delivery →
      ¬ connection.Interrupted jobId [delivery] world'.clock :=
    fun hnot hinterrupted => hnot (hinterrupted.goesOn _ (List.mem_singleton_self _))
  cases hanswer : connection.answer (.jobResult jobId) delivery with
  | error error =>
    rw [hanswer] at h
    refine .inl ⟨conducts_bind_error h, hdecides ?_⟩
    rintro ⟨job, hjob, -⟩
    exact absurd (hanswer.symm.trans hjob) (by simp)
  | ok job =>
    rw [hanswer] at h
    have hpending : connection.GoesOn jobId delivery → job.status = .pending := by
      rintro ⟨job', hjob, hstatus⟩
      rwa [Except.ok.inj (hanswer.symm.trans hjob)]
    cases hstatus : job.status with
    | succeeded =>
      refine .inl ⟨conducts_bind_silent h ?_, hdecides fun hgoesOn => ?_⟩
      · simp only [verdict, hstatus]
        exact conducts_pure connection job world'
      · exact absurd (hstatus.symm.trans (hpending hgoesOn)) (by simp)
    | failed =>
      refine .inl ⟨conducts_bind_silent h ?_, hdecides fun hgoesOn => ?_⟩
      · simp only [verdict, hstatus]
        exact conducts_done connection _ world'
      · exact absurd (hstatus.symm.trans (hpending hgoesOn)) (by simp)
    | pending =>
      have hgoesOn : connection.GoesOn jobId delivery := ⟨job, hanswer, hstatus⟩
      cases hnext : world'.clock.later? connection.pollInterval with
      | none =>
        refine .inr (.inl ⟨?_, List.cons_ne_nil _ _, ?_, hnext⟩)
        · rw [← List.append_nil (questions jobId [delivery])]
          refine (leadsTo_bind_ok h).breaksOff ?_
          simp only [hstatus]
          exact breaksOff_instantAfter_bind hnext
        · intro answer hmem
          exact List.mem_singleton.1 hmem ▸ hgoesOn
      | some next =>
        by_cases hlate : deadline < next
        · refine .inl ⟨conducts_bind_silent h ?_, ?_⟩
          · simp only [verdict, hstatus]
            refine (leadsTo_instantAfter_bind hnext).conducts ?_
            rw [if_pos hlate]
            exact conducts_done connection _ world'
          · intro hinterrupted
            exact absurd (hinterrupted.clock.symm.trans hnext) (by simp)
        · refine .inr (.inr ⟨hgoesOn, ?_, (leadsTo_bind_ok h).trans_silent ?_⟩)
          · rw [Instant.later_of_later? hnext]
            exact Nat.le_of_not_lt hlate
          · simp only [hstatus]
            refine (leadsTo_instantAfter_bind hnext).trans_silent ?_
            rw [if_neg hlate]
            exact leadsTo_pause_bind

/-- Waiting for a job gets these answers. The last one decides, or the clock interrupts the
questions. -/
inductive Awaits (connection : Connection) (name jobId : String)
    (d : Dialogue (Except ClientError Job)) (world : World σ) : List Delivery → World σ → Prop
  | decided {earlier : List Delivery} {last : Delivery} {world' : World σ}
    (h : connection.Conducts d world (questions jobId (earlier ++ [last]))
      (connection.verdict name jobId (connection.answer (.jobResult jobId) last)) world')
    (hearlier : ∀ answer ∈ earlier, connection.GoesOn jobId answer)
    (huninterrupted : ¬ connection.Interrupted jobId (earlier ++ [last]) world'.clock) :
    Awaits connection name jobId d world (earlier ++ [last]) world'
  | interrupted {answers : List Delivery} {world' : World σ}
    (h : connection.BreaksOff d world (questions jobId answers) world')
    (hinterrupted : connection.Interrupted jobId answers world'.clock) :
    Awaits connection name jobId d world answers world'

theorem Awaits.exchanges {connection : Connection} {name jobId : String}
    {d : Dialogue (Except ClientError Job)} {world world' : World σ} {answers : List Delivery}
    (h : connection.Awaits name jobId d world answers world') :
    d.exchanges world = (questions jobId answers).flatMap connection.exchanged := by
  cases h with
  | decided h => exact h.exchanges
  | interrupted h => exact h.exchanges

/-- The first answer decides, or the job goes on. Then it is asked about again, or the clock
interrupts the questions. -/
theorem Awaits.first_cases {connection : Connection} {name jobId : String}
    {d : Dialogue (Except ClientError Job)} {world world' : World σ} {delivery : Delivery}
    {answers : List Delivery}
    (h : connection.Awaits name jobId d world (delivery :: answers) world') :
    answers = [] ∧ d.run world = (some (connection.verdict name jobId
        (connection.answer (.jobResult jobId) delivery)), world') ∨
      connection.GoesOn jobId delivery ∧ (answers = [] → d.run world = (none, world')) := by
  generalize hanswers : delivery :: answers = all at h
  cases h with
  | @decided earlier last _ h hearlier _ =>
    cases earlier with
    | nil =>
      obtain ⟨rfl, rfl⟩ := List.cons.inj hanswers
      exact .inl ⟨rfl, h.run⟩
    | cons first earlier =>
      obtain ⟨rfl, rfl⟩ := List.cons.inj hanswers
      exact .inr ⟨hearlier _ (List.mem_cons_self ..), fun hnone => absurd hnone (by simp)⟩
  | interrupted h hinterrupted =>
    refine .inr ⟨hinterrupted.goesOn _ (hanswers ▸ List.mem_cons_self ..), fun _ => h.run⟩

/-- If a job goes on after a question, the answers to come are those to the other questions. -/
theorem Awaits.cons {connection : Connection} {name jobId : String}
    {d rest : Dialogue (Except ClientError Job)} {world world' world'' : World σ}
    {delivery : Delivery} {answers : List Delivery} (hgoesOn : connection.GoesOn jobId delivery)
    (h : connection.LeadsTo d world (questions jobId [delivery]) rest world')
    (hrest : connection.Awaits name jobId rest world' answers world'') :
    connection.Awaits name jobId d world (delivery :: answers) world'' := by
  have hall : ∀ {others : List Delivery}, (∀ answer ∈ others, connection.GoesOn jobId answer) →
      ∀ answer ∈ delivery :: others, connection.GoesOn jobId answer := by
    intro others hothers answer hmem
    rcases List.mem_cons.1 hmem with rfl | hmem
    · exact hgoesOn
    · exact hothers answer hmem
  cases hrest with
  | @decided earlier last _ hdecided hearlier huninterrupted =>
    have hopen : ¬ connection.Interrupted jobId (delivery :: earlier ++ [last]) world''.clock := by
      intro hinterrupted
      refine huninterrupted ⟨by simp, ?_, hinterrupted.clock⟩
      intro answer hmem
      exact hinterrupted.goesOn answer (List.mem_cons_of_mem _ hmem)
    exact .decided (h.conducts hdecided) (hall hearlier) hopen
  | interrupted hbroken hinterrupted =>
    exact .interrupted (h.breaksOff hbroken)
      ⟨List.cons_ne_nil _ _, hall hinterrupted.goesOn, hinterrupted.clock⟩

/-- What comes before the first question may exchange nothing. -/
theorem Awaits.of_leadsTo {connection : Connection} {name jobId : String}
    {d rest : Dialogue (Except ClientError Job)} {world world' world'' : World σ}
    {answers : List Delivery} (h : connection.LeadsTo d world [] rest world')
    (hrest : connection.Awaits name jobId rest world' answers world'') :
    connection.Awaits name jobId d world answers world'' := by
  cases hrest with
  | decided hdecided hearlier huninterrupted =>
    exact .decided (h.conducts hdecided) hearlier huninterrupted
  | interrupted hbroken hinterrupted => exact .interrupted (h.breaksOff hbroken) hinterrupted

/-- A job is asked about until an answer decides, or the clock interrupts the questions. -/
theorem exists_awaits_pollUntil {connection : Connection} (name jobId : String)
    {deadline : Instant} {limit : Nat} {world : World σ}
    (hlimit : connection.Suffices deadline world.clock limit) :
    ∃ delivery world' answers world'', connection.Conducts
        (ExceptT.run (connection.queryJob jobId)) world (questions jobId [delivery])
        (connection.answer (.jobResult jobId) delivery) world' ∧
      connection.Awaits name jobId (ExceptT.run (connection.pollUntil name jobId deadline limit))
        world (delivery :: answers) world'' := by
  induction limit generalizing world with
  | zero => exact absurd hlimit not_suffices_zero
  | succ limit ih =>
    obtain ⟨delivery, world', hquestion⟩ := exists_conducts_queryJob connection jobId world
    refine ⟨delivery, world', ?_⟩
    rcases pollUntil_cases name deadline limit hquestion with
      ⟨hdecided, huninterrupted⟩ | ⟨hbroken, hinterrupted⟩ | ⟨hgoesOn, hearly, hmore⟩
    · have hone : connection.Awaits name jobId
          (ExceptT.run (connection.pollUntil name jobId deadline (limit + 1))) world
          ([] ++ [delivery]) world' := .decided hdecided nofun huninterrupted
      exact ⟨[], world', hquestion, hone⟩
    · exact ⟨[], world', hquestion, .interrupted hbroken hinterrupted⟩
    · have hlater : world.clock ≤ world'.clock := by
        have hle := Dialogue.clock_le_run (ExceptT.run (connection.queryJob jobId)) world
        rwa [hquestion.run] at hle
      obtain ⟨next, -, answers, world'', -, hawaits⟩ :=
        @ih (world'.after connection.spacing) (hlimit.next hlater hearly)
      exact ⟨next :: answers, world'', hquestion, hawaits.cons hgoesOn hmore⟩

/-- A job is waited for, unless the clock cannot represent until when. -/
theorem exists_awaits_waitForJob {connection : Connection} (name jobId : String)
    {deadline : Instant} {world : World σ}
    (hdeadline : world.clock.later? connection.asyncTimeout = some deadline) :
    ∃ delivery world' answers world'', connection.Conducts
        (ExceptT.run (connection.queryJob jobId)) world (questions jobId [delivery])
        (connection.answer (.jobResult jobId) delivery) world' ∧
      connection.Awaits name jobId (ExceptT.run (connection.waitForJob name jobId)) world
        (delivery :: answers) world'' := by
  obtain ⟨delivery, world', answers, world'', hquestion, hawaits⟩ :=
    exists_awaits_pollUntil name jobId (suffices_questionLimit hdeadline)
  exact ⟨delivery, world', answers, world'', hquestion,
    hawaits.of_leadsTo (leadsTo_instantAfter_bind hdeadline)⟩

/-- A command that starts a job submits it, and then waits for it. -/
theorem leadsTo_executeRaw {connection : Connection} {call : Call α} (hasync : call.isAsync = true)
    {world world' : World σ} {attempts : List Attempt} {body : Json} {jobId : String}
    (hsend : connection.Conducts (ExceptT.run (connection.send call.toCommand)) world attempts
      (.ok body) world') (hjob : startedJob? body = some jobId) :
    connection.LeadsTo (ExceptT.run (connection.executeRaw call.toCommand)) world attempts
      (ExceptT.run (do
        let job ← connection.waitForJob call.name jobId
        return (⟨some jobId, job.result.getD (.obj [])⟩ : CommandOutput))) world' := by
  refine (leadsTo_bind_ok hsend).trans_silent ?_
  simp only [Call.toCommand_isAsync, hasync, Bool.not_true, Bool.false_eq_true, if_false, hjob]
  exact ⟨rfl, rfl⟩

/-- A command that starts a job keeps to its protocol in every world, unless it is left open. -/
theorem exists_starts_executeRaw (connection : Connection) (call : Call α)
    (hasync : call.isAsync = true) (world : World σ) :
    (∃ attempts result world', connection.Conducts
        (ExceptT.run (connection.executeRaw call.toCommand)) world attempts result world' ∧
        Protocol.Starts connection call attempts result ∧
        ¬ connection.LeftOpen call attempts world'.clock) ∨
      ∃ attempts world', connection.BreaksOff
        (ExceptT.run (connection.executeRaw call.toCommand)) world attempts world' ∧
        connection.LeftOpen call attempts world'.clock := by
  obtain ⟨submission, world', hsend⟩ := exists_conducts_send connection call world
  cases hreply : connection.reply call.toCommand submission with
  | error error =>
    rw [hreply] at hsend
    refine .inl ⟨_, _, world', conducts_bind_error hsend, .refused hreply, fun hopen => ?_⟩
    obtain ⟨body, jobId, answers, -, hbody, -⟩ := LeftOpen.of_cons hopen
    exact absurd (hreply.symm.trans hbody) (by simp)
  | ok body =>
    rw [hreply] at hsend
    cases hjob : startedJob? body with
    | none =>
      refine .inl ⟨_, _, world', conducts_bind_silent hsend ?_, .unnamed hreply hjob,
        fun hopen => ?_⟩
      · simp only [Call.toCommand_isAsync, hasync, Bool.not_true, Bool.false_eq_true, if_false,
          hjob]
        exact conducts_done connection _ world'
      · obtain ⟨body', jobId, answers, -, hbody, hnamed, -⟩ := LeftOpen.of_cons hopen
        obtain rfl := Except.ok.inj (hreply.symm.trans hbody)
        exact absurd (hjob.symm.trans hnamed) (by simp)
    | some jobId =>
      have hwait := leadsTo_executeRaw hasync hsend hjob
      cases hdeadline : world'.clock.later? connection.asyncTimeout with
      | none =>
        have hbroken : connection.BreaksOff (ExceptT.run (connection.waitForJob call.name jobId))
            world' [] world' := breaksOff_instantAfter_bind hdeadline
        exact .inr ⟨_, world', hwait.breaksOff (breaksOff_bind hbroken _), submission, body, jobId,
          [], rfl, hreply, hjob, .inl ⟨rfl, hdeadline⟩⟩
      | some deadline =>
        obtain ⟨delivery, -, answers, world'', -, hawaits⟩ :=
          exists_awaits_waitForJob call.name jobId hdeadline
        generalize delivery :: answers = all at hawaits
        cases hawaits with
        | decided hdecided hearlier huninterrupted =>
          refine .inl ⟨_, _, world'', hwait.conducts (conducts_map hdecided _),
            .watched hreply hjob (.intro _ _ hearlier), fun hopen => ?_⟩
          obtain ⟨body', jobId', answers', hanswers, hbody, hnamed, hcases⟩ :=
            LeftOpen.of_cons hopen
          obtain rfl := Except.ok.inj (hreply.symm.trans hbody)
          obtain rfl := Option.some.inj (hjob.symm.trans hnamed)
          obtain rfl := Protocol.questions_injective hanswers
          rcases hcases with ⟨hnone, -⟩ | hinterrupted
          · exact absurd hnone (by simp)
          · exact huninterrupted hinterrupted
        | interrupted hbroken hinterrupted =>
          exact .inr ⟨_, world'', hwait.breaksOff (breaksOff_bind hbroken _), submission, body,
            jobId, all, rfl, hreply, hjob, .inr hinterrupted⟩

end Connection

end ControlPlane
