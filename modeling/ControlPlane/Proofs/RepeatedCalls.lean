import ControlPlane.CommandLine.Run
import ControlPlane.Proofs.BatchJobs
import ControlPlane.Proofs.PooledRequests
import ControlPlane.Proofs.QueryPieces

/-!
# Calls, single and repeated

A command is called once, directly, or it is submitted as a batch: when it is to be repeated or a
number of workers is given. What makes a call impossible is found out on the way, in three places,
and each time before anything is sent (`CallRequest.IsRefused`).

Main statement: if replies depend on the request only, a call that runs to its end succeeds exactly
if the command does on its own, whichever way it is called, and the server receives the requests of
the command once for each time that it is called (`call_succeeds_iff`).
-/

namespace ControlPlane

/-- A number of seconds that is a duration: it is finite and not below zero, and rounded to
nanoseconds it is less than 2^64 seconds. -/
def Number.Extended.IsDuration : Number.Extended → Prop
  | .finite x => (x.negative = false ∨ x.isZero = true) ∧
      Number.roundDiv (x.ratio.1 * Duration.perSecond) x.ratio.2 <
        (Number.greatest64 + 1) * Duration.perSecond
  | .infinite _ | .undefined => False

theorem Number.Extended.isDuration_iff {x : Number.Extended} :
    x.IsDuration ↔ ∃ duration, x.seconds? = .ok duration := by
  cases x with
  | finite x =>
    rw [IsDuration, seconds?, Duration.ofSeconds?]
    rcases x.ratio with ⟨num, den⟩
    simp only
    generalize Number.roundDiv (num * Duration.perSecond) den = n
    have hfits : Duration.fits ⟨n⟩ = true ↔ n < (Number.greatest64 + 1) * Duration.perSecond := by
      rw [Duration.fits, decide_eq_true_iff, Duration.seconds, ← Nat.div_lt_iff_lt_mul (by decide)]
      exact Nat.lt_succ_iff.symm
    rw [← hfits]
    cases x.negative <;> cases x.isZero <;> cases Duration.fits ⟨n⟩ <;> simp
  | infinite negative => cases negative <;> simp [IsDuration, seconds?]
  | undefined => simp [IsDuration, seconds?]

/-- No time at all, written as a number of seconds. -/
theorem Number.Extended.seconds?_zero (negative : Bool) :
    (Number.Extended.finite (Number.Binary64.zero negative)).seconds? = .ok .zero := by
  obtain ⟨den, hratio⟩ : ∃ den, (Number.Binary64.zero negative).ratio = (0, den) := ⟨_, rfl⟩
  have hround : Number.roundDiv 0 den = 0 := by simp [Number.roundDiv]
  have hzero : (Number.Binary64.zero negative).isZero = true := rfl
  simp only [seconds?, Duration.ofSeconds?, hratio, hzero, Nat.zero_mul, hround, Bool.not_true,
    Bool.and_false, Bool.false_eq_true, if_false]
  rfl

namespace Command

theorem splitPair_eq_none_iff {text : String} : splitPair text = none ↔ '=' ∉ text.toList := by
  rw [splitPair]
  obtain ⟨hcut, hall⟩ | ⟨front, d, rest, htext, hcut, hd, -⟩ :=
    Url.cutAt_cases (· == '=') text.toList
  · rw [hcut]
    exact ⟨fun _ hmem => absurd (hall _ hmem) (by decide), fun _ => rfl⟩
  · rw [hcut, htext, eq_of_beq hd]
    simp

/-- A command takes up texts as its parameters if each of them has an equals sign. -/
theorem exists_withPairs_iff (command : Command) (pairs : List String) :
    (∃ command', command.withPairs pairs = .ok command') ↔
      ∀ text ∈ pairs, '=' ∈ text.toList := by
  induction pairs generalizing command with
  | nil => simp [withPairs]
  | cons text rest ih =>
    cases hsplit : splitPair text with
    | none => simp [withPairs, hsplit, splitPair_eq_none_iff.1 hsplit]
    | some pair =>
      have htext : '=' ∈ text.toList := by
        refine Decidable.not_not.1 fun hnot => ?_
        rw [splitPair_eq_none_iff.2 hnot] at hsplit
        exact absurd hsplit (by simp)
      simp [withPairs, hsplit, htext, ih]

end Command

namespace CommandLine

/-! ## Calls that are refused -/

/-- A call that is refused: it is to be made zero times, or a parameter has no equals sign, or it is
to be submitted as a batch at an interval that is no duration. -/
def CallRequest.IsRefused (request : CallRequest) : Prop :=
  request.times = 0 ∨ (∃ text ∈ request.pairs, '=' ∉ text.toList) ∨
    (1 < request.times ∨ request.workers.isSome) ∧ ¬ request.interval.IsDuration

variable {σ τ : Type} {session : Session} {request : CallRequest} {format : OutputFormat}

theorem CallRequest.exists_toCommand_iff :
    (∃ command, request.toCommand = .ok command) ↔ ∀ text ∈ request.pairs, '=' ∈ text.toList := by
  rw [← Command.exists_withPairs_iff (Command.named request.command), toCommand]
  cases (Command.named request.command).withPairs request.pairs with
  | ok command => simp
  | error error => simp

theorem CallRequest.exists_spacing_iff :
    (∃ interval, request.spacing = .ok interval) ↔ request.interval.IsDuration := by
  rw [Number.Extended.isDuration_iff, spacing]
  cases request.interval.seconds? with
  | ok interval => simp
  | error fault => simp

/-- A call that is refused ends at once, with an error. -/
theorem exists_callPlan_of_isRefused (session : Session) (format : OutputFormat)
    (h : request.IsRefused) :
    ∃ exit, callPlan session request format = .finish exit ∧ exit.code ≠ 0 := by
  -- the plan checks the number of times, then the parameters, then the interval
  by_cases htimes : request.times = 0
  · exact ⟨_, callPlan_of_zero session format htimes, Nat.one_ne_zero⟩
  · cases hcommand : request.toCommand with
    | error failure =>
      exact ⟨_, callPlan_of_malformed session format htimes hcommand, Nat.one_ne_zero⟩
    | ok command =>
      have hpairs := CallRequest.exists_toCommand_iff.1 ⟨command, hcommand⟩
      obtain hzero | ⟨text, hmem, htext⟩ | ⟨hbatch, hinterval⟩ := h
      · exact absurd hzero htimes
      · exact absurd (hpairs text hmem) htext
      · have hsingle : request.isSingle = false := by
          rw [CallRequest.isSingle, Bool.and_eq_false_iff, beq_eq_false_iff_ne]
          exact hbatch.imp (fun hlt => Nat.ne_of_gt hlt) (by simp)
        cases hspacing : request.spacing with
        | ok interval =>
          exact absurd (CallRequest.exists_spacing_iff.1 ⟨interval, hspacing⟩) hinterval
        | error failure =>
          refine ⟨.failure failure, ?_, Nat.one_ne_zero⟩
          simp [callPlan, htimes, hcommand, hsingle, hspacing]

/-- A call that is not refused is made: once, or as a batch. -/
theorem exists_callPlan_of_not_isRefused (session : Session) (format : OutputFormat)
    (h : ¬ request.IsRefused) :
    ∃ command, request.toCommand = .ok command ∧ 0 < request.times ∧
      (request.times = 1 ∧
          callPlan session request format = singlePlan session request command format ∨
        ∃ interval, callPlan session request format = .batch session.runner
          (List.replicate request.times command)
          (request.workers.getD session.settings.defaultWorkers) interval (reportExit format)) := by
  obtain ⟨htimes, hpairs, hbatch⟩ : request.times ≠ 0 ∧
      (∀ text ∈ request.pairs, '=' ∈ text.toList) ∧
      ((1 < request.times ∨ request.workers.isSome) → request.interval.IsDuration) := by
    simpa [CallRequest.IsRefused] using h
  obtain ⟨command, hcommand⟩ := CallRequest.exists_toCommand_iff.2 hpairs
  refine ⟨command, hcommand, Nat.pos_of_ne_zero htimes, ?_⟩
  cases hsingle : request.isSingle with
  | true =>
    rw [CallRequest.isSingle, Bool.and_eq_true, beq_iff_eq] at hsingle
    refine .inl ⟨hsingle.1, ?_⟩
    simp [callPlan, hcommand, CallRequest.isSingle, hsingle]
  | false =>
    have hmany : 1 < request.times ∨ request.workers.isSome := by
      rw [CallRequest.isSingle, Bool.and_eq_false_iff, beq_eq_false_iff_ne] at hsingle
      refine hsingle.imp (fun hne => by omega) (by simp)
    obtain ⟨interval, hinterval⟩ := CallRequest.exists_spacing_iff.2 (hbatch hmany)
    exact .inr ⟨interval, by simp [callPlan, htimes, hcommand, hsingle, hinterval]⟩

/-! ## Calls that run to their end -/

/-- A plan runs to its end: nothing breaks off, and nothing of a batch is cut off. -/
def Plan.RunsThrough (plan : Plan) (world : World σ) : Prop :=
  match plan with
  | .finish _ => True
  | .converse dialogue => (dialogue.run world).1 ≠ none
  | .batch runner commands workers interval _ => runner.RunsThrough commands workers interval world

/-- Between two worlds the server has received the requests of a command a number of times, whenever
the command has a course. -/
def Repeats (client : Client) (command : Command) (times : Nat) (timed : Bool)
    (world world' : World σ) : Prop :=
  ∀ oracle requests result span, world.Follows oracle timed →
    Action.HasCourse oracle timed (client.executeRaw command) requests result span →
      ∃ all, Copies times (World.reached world.link requests) all ∧ world.Receives world' all

/-- A command has been called a number of times: that has gone well exactly if the command comes to
an output, and the server has received the requests of the command as many times. -/
structure Calls (client : Client) (reply : Request → Delivery) (command : Command) (times : Nat)
    (world : World σ) (exit : Exit) (world' : World σ) : Prop where
  code : exit.code = 0 ↔ ∃ output, client.connection.outputOf reply command = .ok output
  repeats : ∀ timed, Repeats client command times timed world world'

/-- Two worlds in which a command sends the same requests: both can be reached or neither, and if
the command waits until its job is overdue, replies take the same time in both. -/
def AgreeOn (client : Client) (reply : Request → Delivery) (command : Command) (world : World σ)
    (other : World τ) : Prop :=
  other.link = world.link ∧ (client.connection.IsOverdue reply command →
    ∃ oracle, world.Follows oracle true ∧ other.Follows oracle true)

/-- What a server has received between two worlds is a number of copies of what another has received
between two others. -/
def IsRepeated (times : Nat) (world world' : World σ) (other alone : World τ) : Prop :=
  ∃ targets all, other.Receives alone targets ∧ world.Receives world' all ∧
    Copies times targets all ∧ all.Perm (List.replicate times targets).flatten

variable {reply : Request → Delivery} {world world' : World σ} {other other' : World τ}
  {client : Client} {command : Command} {times : Nat}

/-- In worlds that agree, a command has one course. Time matters to it only if the command waits
until it is overdue. -/
theorem exists_shared_course (hworld : world.Steady reply) (hother : other.Steady reply)
    (hagree : AgreeOn client reply command world other) :
    ∃ oracle timed requests result span, world.Follows oracle timed ∧ other.Follows oracle timed ∧
      Action.HasCourse oracle timed (client.executeRaw command) requests result span ∧
      (¬ client.connection.IsOverdue reply command → timed = false) := by
  by_cases hoverdue : client.connection.IsOverdue reply command
  · obtain ⟨oracle, hfollows, hfollows'⟩ := hagree.2 hoverdue
    obtain ⟨requests, result, span, hcourse⟩ :=
      @Connection.exists_course_executeRaw client.connection oracle true command (.inl rfl)
    exact ⟨oracle, true, requests, result, span, hfollows, hfollows', hcourse, absurd hoverdue⟩
  · obtain ⟨requests, result, span, hcourse⟩ := @Connection.exists_course_executeRaw
      client.connection (fun request => (reply request, .zero)) false command (.inr hoverdue)
    exact ⟨_, false, requests, result, span, hworld.follows, hother.follows, hcourse, fun _ => rfl⟩

/-- A command that is called a number of times in one world has as many copies of its requests
received there as when it is executed on its own in another. -/
theorem isRepeated_of_repeats {alone : World τ} {result : Except ClientError CommandOutput}
    (hworld : world.Steady reply) (hother : other.Steady reply)
    (hagree : AgreeOn client reply command world other)
    (halone : (client.executeRaw command).run other = (some result, alone))
    (h : ∀ timed, (¬ client.connection.IsOverdue reply command → timed = false) →
      Repeats client command times timed world world') :
    IsRepeated times world world' other alone := by
  obtain ⟨oracle, timed, requests, own, span, hfollows, hfollows', hcourse, htimed⟩ :=
    exists_shared_course hworld hother hagree
  obtain ⟨all, hcopies, hreceives⟩ := h timed htimed oracle requests own span hfollows hcourse
  have htargets := hcourse.receives hfollows' halone
  rw [hagree.1] at htargets
  exact ⟨_, all, htargets, hreceives, hcopies, hcopies.perm⟩

/-- A command that is called once in each of two worlds goes well in both or in neither, and the
servers receive the same requests. -/
theorem Calls.agree {exit exit' : Exit} (h : Calls client reply command 1 world exit world')
    (h' : Calls client reply command 1 other exit' other') (hworld : world.Steady reply)
    (hother : other.Steady reply) :
    (exit.code = 0 ↔ exit'.code = 0) ∧ (AgreeOn client reply command world other →
      ∃ targets, world.Receives world' targets ∧ other.Receives other' targets) := by
  refine ⟨h.code.trans h'.code.symm, fun hagree => ?_⟩
  obtain ⟨oracle, timed, requests, own, span, hfollows, hfollows', hcourse, -⟩ :=
    exists_shared_course hworld hother hagree
  obtain ⟨all, hcopies, hreceives⟩ := h.repeats timed oracle requests own span hfollows hcourse
  obtain ⟨all', hcopies', hreceives'⟩ :=
    h'.repeats timed oracle requests own span hfollows' hcourse
  rw [copies_one_iff] at hcopies hcopies'
  rw [hcopies] at hreceives
  rw [hcopies', hagree.1] at hreceives'
  exact ⟨_, hreceives, hreceives'⟩

/-- An action that runs to its end is followed by what is made of its result. -/
theorem exists_run_ofAction {action : Action Exit} {explain : ClientError → Failure}
    (h : (Plan.ofAction action explain).RunsThrough world) :
    ∃ result world', action.run world = (some result, world') ∧
      (Plan.ofAction action explain).run world =
        (match result with
          | .ok exit => exit
          | .error error => .failure (explain error), world') := by
  rw [Plan.ofAction, Plan.RunsThrough, Dialogue.run_bind] at h
  rw [Plan.ofAction, Plan.run, Dialogue.run_bind, Action.run]
  revert h
  rcases (ExceptT.run action).run world with ⟨_ | result, world'⟩
  · exact fun h => absurd rfl h
  · intro _
    refine ⟨result, world', rfl, ?_⟩
    cases result with
    | ok exit => rfl
    | error error => rfl

theorem calls_singlePlan (hworld : world.Steady reply)
    (h : (singlePlan session request command format).RunsThrough world) :
    ∃ exit world', (singlePlan session request command format).run world = (exit, world') ∧
      Calls session.client reply command 1 world exit world' := by
  obtain ⟨result, world', hrun, hplan⟩ := exists_run_ofAction h
  refine ⟨_, world', hplan, ?_⟩
  rw [Action.run_map] at hrun
  rcases hraw : (session.client.executeRaw command).run world with ⟨raw, after⟩
  rw [show session.apiClient.executeRaw command = session.client.executeRaw command from rfl,
    hraw, Prod.mk.injEq, Option.map_eq_some_iff] at hrun
  obtain ⟨⟨output, rfl, rfl⟩, rfl⟩ := hrun
  have houtput := (JobRunner.run_executeRaw_of_steady session.client command hworld).1 output
    (congrArg Prod.fst hraw)
  refine ⟨?_, ?_⟩
  · rw [← houtput]
    cases output with
    | ok own => exact ⟨fun _ => ⟨own, rfl⟩, fun _ => rfl⟩
    | error error => simp [Except.map, Exit.failure, Exit.failureAfter]
  · intro timed oracle requests own span hfollows hcourse
    exact ⟨_, copies_one_iff.2 rfl, hcourse.receives hfollows hraw⟩

theorem code_reportExit (format : OutputFormat) (report : BatchReport) :
    (reportExit format report).code = 0 ↔ report.allSucceeded = true := by
  rw [BatchReport.allSucceeded_iff, ← List.length_eq_zero_iff, reportExit]
  by_cases hfailed : report.failed.length = 0
  · simp [hfailed]
  · simp [hfailed, Exit.failureAfter]

/-- A report on a command that was repeated says of each time whether the command comes to an
output. -/
theorem allSucceeded_of_completes {runner : JobRunner} {times workers : Nat} {interval : Duration}
    {report : BatchReport} (htimes : 0 < times) (hworld : world.Steady reply)
    (h : runner.Completes (List.replicate times command) workers interval world report) :
    report.allSucceeded = true ↔
      ∃ output, runner.client.connection.outputOf reply command = .ok output := by
  obtain ⟨hlength, houtcomes⟩ := JobRunner.outcome_of_completes hworld h
  rw [List.length_replicate] at hlength
  have hmade : ∀ (k : Nat) (outcome : JobOutcome), report.outcomes[k]? = some outcome →
      (outcome.isSuccess = true ↔
        ∃ output, runner.client.connection.outputOf reply command = .ok output) := by
    intro k outcome houtcome
    have hlt := (List.getElem?_eq_some_iff.1 houtcome).1
    have hcommand : (List.replicate times command)[k]? = some command :=
      List.getElem?_replicate_of_lt (hlength ▸ hlt)
    exact (houtcomes k command outcome hcommand houtcome).2.isSuccess_iff
  rw [BatchReport.allSucceeded, List.all_eq_true]
  constructor
  · intro hall
    have hfirst := List.getElem?_eq_getElem (hlength.symm ▸ htimes)
    exact (hmade 0 _ hfirst).1 (hall _ (List.mem_of_getElem? hfirst))
  · intro houtput outcome hmem
    obtain ⟨k, hk⟩ := List.mem_iff_getElem?.1 hmem
    exact (hmade k outcome hk).2 houtput

theorem calls_batch {runner : JobRunner} {workers : Nat} {interval : Duration}
    (htimes : 0 < times) (hworld : world.Steady reply)
    (h : runner.RunsThrough (List.replicate times command) workers interval world) :
    ∃ exit world', (Plan.batch runner (List.replicate times command) workers interval
        (reportExit format)).run world = (exit, world') ∧
      Calls runner.client reply command times world exit world' := by
  obtain ⟨report, world', hrun, hcompletes⟩ := JobRunner.exists_completesIn_of_runsThrough h
  refine ⟨reportExit format report, world', by simp only [Plan.run, hrun], ?_, ?_⟩
  · rw [code_reportExit, allSucceeded_of_completes htimes hworld hcompletes.completes]
  · intro timed oracle requests result span hfollows hcourse
    have hcopies := JobRunner.exists_copies_of_runsThrough hfollows hcourse h
    rwa [hrun] at hcopies

theorem exists_calls_of_runsThrough (hclient : session.runner.client = session.client)
    (hrequest : ¬ request.IsRefused) (hworld : world.Steady reply)
    (hcommand : request.toCommand = .ok command)
    (h : (callPlan session request format).RunsThrough world) :
    ∃ exit world', (callPlan session request format).run world = (exit, world') ∧
      Calls session.client reply command request.times world exit world' := by
  obtain ⟨own, hown, htimes, ⟨hone, hplan⟩ | ⟨interval, hplan⟩⟩ :=
    exists_callPlan_of_not_isRefused session format hrequest
  all_goals
    obtain rfl := Except.ok.inj (hown.symm.trans hcommand)
    rw [hplan] at h ⊢
  · rw [hone]
    exact calls_singlePlan hworld h
  · rw [← hclient]
    exact calls_batch htimes hworld h

/-- A call that is refused fails, and nothing is sent. Any other call that runs to its end succeeds
exactly if the command does when it is executed on its own, in any world where replies are the same,
and the server receives the requests of the command once for each time it is called. A single call
and a batch of one, with any number of workers, succeed or fail together and send the same requests.

Replies may take any time, and the events of a batch may follow each other in any order; only if the
command waits until its job is overdue, the number of its requests depends on both. -/
theorem call_succeeds_iff {settings : Settings} {client : Client} {table : Option JobTable}
    (hsession : Session.assemble? settings client table = some session) (request : CallRequest)
    (format : OutputFormat) (world : World σ) (other : World τ) (hworld : world.Steady reply)
    (hother : other.Steady reply) :
    (request.IsRefused → ∃ exit, (callPlan session request format).run world = (exit, world) ∧
      exit.code ≠ 0) ∧
    (¬ request.IsRefused → ∃ command, request.toCommand = .ok command ∧
      (∀ result alone, (session.client.executeRaw command).run other = (some result, alone) →
        ((callPlan session request format).RunsThrough world →
          ∃ exit world', (callPlan session request format).run world = (exit, world') ∧
            (exit.code = 0 ↔ ∃ output, result = .ok output) ∧
            (AgreeOn session.client reply command world other →
              IsRepeated request.times world world' other alone)) ∧
        ∀ workers interval report world', session.runner.CompletesIn
          (List.replicate request.times command) workers interval world report world' →
            ((reportExit format report).code = 0 ↔ ∃ output, result = .ok output) ∧
            (other.link = world.link → ¬ session.client.connection.IsOverdue reply command →
              IsRepeated request.times world world' other alone)) ∧
      ∀ workers, request.times = 1 → request.workers = none →
        ¬ { request with workers := some workers }.IsRefused →
        (callPlan session request format).RunsThrough world →
        (callPlan session { request with workers := some workers } format).RunsThrough other →
        ∃ exit world' exit' other', (callPlan session request format).run world = (exit, world') ∧
          (callPlan session { request with workers := some workers } format).run other =
            (exit', other') ∧
          (exit.code = 0 ↔ exit'.code = 0) ∧
          (AgreeOn session.client reply command world other →
            ∃ targets, world.Receives world' targets ∧ other.Receives other' targets)) := by
  have hclient : session.runner.client = session.client := by
    obtain ⟨_, -, hassembled⟩ := Option.bind_eq_some_iff.1 hsession
    obtain rfl := Option.some.inj hassembled
    rfl
  refine ⟨?_, ?_⟩
  · intro hrefused
    obtain ⟨exit, hplan, hcode⟩ := exists_callPlan_of_isRefused session format hrefused
    exact ⟨exit, by rw [hplan]; rfl, hcode⟩
  · intro hrequest
    obtain ⟨command, hcommand, htimes, -⟩ :=
      exists_callPlan_of_not_isRefused session format hrequest
    refine ⟨command, hcommand, ?_, ?_⟩
    · intro result alone halone
      obtain rfl := (JobRunner.run_executeRaw_of_steady session.client command hother).1 result
        (congrArg Prod.fst halone)
      refine ⟨?_, ?_⟩
      · intro hruns
        obtain ⟨exit, world', hrun, hcalls⟩ :=
          exists_calls_of_runsThrough hclient hrequest hworld hcommand hruns
        refine ⟨exit, world', hrun, hcalls.code, fun hagree => ?_⟩
        exact isRepeated_of_repeats hworld hother hagree halone fun timed _ => hcalls.repeats timed
      · intro workers interval report world' hcompletes
        refine ⟨?_, ?_⟩
        · rw [code_reportExit, allSucceeded_of_completes htimes hworld hcompletes.completes,
            hclient]
        · intro hlink hoverdue
          refine isRepeated_of_repeats hworld hother ⟨hlink, fun h => absurd h hoverdue⟩ halone ?_
          intro timed htimed
          obtain rfl := htimed hoverdue
          intro oracle requests own span hfollows hcourse
          rw [← hclient] at hcourse
          exact JobRunner.exists_copies_of_completesIn hfollows hcourse hcompletes
    · intro workers hone hnone hbatch hruns hruns'
      obtain ⟨exit, world', hrun, hcalls⟩ :=
        exists_calls_of_runsThrough hclient hrequest hworld hcommand hruns
      obtain ⟨exit', other', hrun', hcalls'⟩ :=
        exists_calls_of_runsThrough hclient hbatch hother hcommand hruns'
      rw [hone] at hcalls hcalls'
      exact ⟨exit, world', exit', other', hrun, hrun', hcalls.agree hcalls' hworld hother⟩

section TwoCalls

open JobRunner.QuickJob

/-- A call of a command that starts a job, twice at once by two workers. -/
def twice : CallRequest where
  command := "deployVirtualMachine"
  pairs := []
  isAsync := true
  times := 2
  workers := some 2
  interval := .finite (Number.Binary64.zero false)

/-- Where jobs have succeeded when they are first asked about, such a call succeeds, and the server
receives the requests of the command twice. -/
theorem exists_repeated_call :
    ∃ session exit world', Session.assemble? EndlessJob.settings
        (Session.bootstrapClient EndlessJob.settings) (some [row]) = some session ∧
      (callPlan session twice .json).run (JobRunner.QuickJob.world finished) = (exit, world') ∧
      exit.code = 0 ∧ ∃ targets all, (JobRunner.QuickJob.world finished).Receives world' all ∧
        Copies 2 targets all := by
  have hfollows := @World.follows_of_answers _ (JobRunner.QuickJob.world finished) fun _ _ => rfl
  obtain ⟨session, hsession, hrunner, hclient⟩ : ∃ session,
      Session.assemble? EndlessJob.settings (Session.bootstrapClient EndlessJob.settings)
        (some [row]) = some session ∧
      session.runner = JobRunner.QuickJob.runner ∧
      session.client = JobRunner.QuickJob.runner.client := ⟨_, rfl, rfl, rfl⟩
  have hexecute := JobRunner.QuickJob.ensures_executeRaw
    (show Envelope.decode EndlessJob.command.name 200 finished =
      .ok (.obj [("jobid", .str "j-1"), ("jobstatus", .num (.whole 1))]) from rfl) rfl rfl rfl
    (by rintro _ ⟨⟩; simp)
  have hspacing : twice.spacing = .ok .zero := by
    rw [CallRequest.spacing, twice, Number.Extended.seconds?_zero]
  have hrefused : ¬ twice.IsRefused := by
    rintro (hzero | ⟨text, hmem, -⟩ | ⟨-, hinterval⟩)
    · exact absurd hzero (by decide)
    · exact absurd hmem List.not_mem_nil
    · exact hinterval (CallRequest.exists_spacing_iff.1 ⟨_, hspacing⟩)
  have hplan : callPlan session twice .json = .batch JobRunner.QuickJob.runner
      (List.replicate 2 EndlessJob.command) 2 .zero (reportExit .json) := by
    simp only [callPlan, hspacing]
    rw [← hrunner]
    rfl
  have hruns : JobRunner.QuickJob.runner.RunsThrough (List.replicate 2 EndlessJob.command) 2 .zero
      (JobRunner.QuickJob.world finished) := by
    obtain ⟨schedule, hschedule, -⟩ := @JobRunner.exists_schedule _ JobRunner.QuickJob.runner 2
      (JobRunner.QuickJob.world finished)
      (show (Instant.later? ⟨0⟩ (.ofSeconds 2)).isSome from by decide) (by decide) 2 .zero
    have hensures : ∀ (k : Nat) command, (List.replicate 2 EndlessJob.command)[k]? = some command →
        (ExceptT.run (JobRunner.QuickJob.runner.client.executeRaw command)).Ensures
          (JobRunner.QuickJob.world finished).answers (fun t output? => t = ⟨0⟩ ∧ output? ≠ none)
          ⟨0⟩ := by
      intro k command hk
      rw [List.eq_of_mem_replicate (List.mem_of_getElem? hk)]
      refine Dialogue.ensures_mono hexecute ?_
      rintro _ _ ⟨rfl, rfl⟩
      exact ⟨rfl, by simp⟩
    refine JobRunner.runsThrough_of_ensures hschedule (by decide)
      (JobRunner.QuickJob.world finished).gives_answers hensures ?_
    rintro k t output? ⟨rfl, hdone⟩
    exact ⟨Nat.zero_le _, hdone⟩
  obtain ⟨-, houtput⟩ := Dialogue.run_of_ensures hexecute
    (JobRunner.QuickJob.world finished).gives_answers
  obtain ⟨-, hcalls⟩ := call_succeeds_iff hsession twice .json (JobRunner.QuickJob.world finished)
    (JobRunner.QuickJob.world finished) hfollows.steady hfollows.steady
  obtain ⟨command, hcommand, hends, -⟩ := hcalls hrefused
  obtain rfl : command = EndlessJob.command := (Except.ok.inj hcommand).symm
  obtain ⟨hbatch, -⟩ := hends _ _ (by rw [hclient]; exact Prod.ext houtput rfl)
  obtain ⟨exit, world', hrun, hcode, hrepeated⟩ := hbatch (by
    rw [hplan]
    exact hruns)
  obtain ⟨targets, all, -, hall, hcopies, -⟩ :=
    hrepeated ⟨rfl, fun _ => ⟨_, hfollows, hfollows⟩⟩
  exact ⟨session, exit, world', hsession, hrun, hcode.2 ⟨_, rfl⟩, targets, all, hall, hcopies⟩

end TwoCalls

end CommandLine

end ControlPlane
