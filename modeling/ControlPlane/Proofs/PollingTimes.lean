import ControlPlane.Proofs.PromptPools

/-!
# How long a command takes

A command that starts a job takes the time of its request, then the time for polling, and then what
the last question takes beyond that: the last question is put by the deadline and may be answered
after it. If requests take a known time at most, so does the command
(`Connection.ensures_executeRaw`). If a job does not finish, polling goes on from question to
question until the next one is due too late (`Connection.ensures_pollUntil_pending`).
-/

namespace ControlPlane

variable {answers : Request → Delivery → Duration → Prop}

/-- What is made of the result of an action is ensured from the time of the result on. -/
theorem Dialogue.ensures_action_bind {α β : Type} {action : Action α} {f : α → Action β}
    {P : Instant → Option (Except ClientError α) → Prop}
    {Q : Instant → Option (Except ClientError β) → Prop} {now : Instant}
    (h : (ExceptT.run action).Ensures answers P now)
    (hok : ∀ t a, P t (some (.ok a)) → (ExceptT.run (f a)).Ensures answers Q t)
    (herror : ∀ t error, P t (some (.error error)) → Q t (some (.error error)))
    (hbroken : ∀ t, P t none → Q t none) :
    (ExceptT.run (action >>= f)).Ensures answers Q now := by
  have hbind : ExceptT.run (action >>= f) =
      (ExceptT.run action).bind fun result => ExceptT.bindCont f result := rfl
  rw [hbind]
  refine ensures_bind h ?_ hbroken
  intro t result hresult
  cases result with
  | ok a => exact hok t a hresult
  | error error => exact .done (herror t error hresult)

theorem Dialogue.ensures_pause_bind {α : Type} {span : Duration} {f : Unit → Action α}
    {P : Instant → Option (Except ClientError α) → Prop} {t : Instant}
    (h : (ExceptT.run (f ())).Ensures answers P (t.later span)) :
    (ExceptT.run (Action.ofDialogue (pause span) >>= f)).Ensures answers P t :=
  .wait h

theorem Dialogue.ensures_instantAfter_bind {α : Type} {span : Duration} {f : Instant → Action α}
    {P : Instant → Option (Except ClientError α) → Prop} {t : Instant}
    (h : ∀ instant, t.later? span = some instant → (ExceptT.run (f instant)).Ensures answers P t)
    (hbroken : t.later? span = none → P t none) :
    (ExceptT.run (Action.instantAfter span >>= f)).Ensures answers P t := by
  rw [Action.exceptRun_instantAfter_bind]
  refine .readClock ?_
  cases hinstant : t.later? span with
  | some instant => exact h instant hinstant
  | none => exact .broken (hbroken hinstant)

theorem Dialogue.ensures_instantAfter_bind_of_some {α : Type} {span : Duration}
    {f : Instant → Action α} {P : Instant → Option (Except ClientError α) → Prop}
    {t instant : Instant} (hinstant : t.later? span = some instant)
    (h : (ExceptT.run (f instant)).Ensures answers P t) :
    (ExceptT.run (Action.instantAfter span >>= f)).Ensures answers P t := by
  refine ensures_instantAfter_bind ?_ (by simp [hinstant])
  intro other hother
  rw [hinstant, Option.some.injEq] at hother
  exact hother ▸ h

namespace Connection

/-- Requests for a command and questions about its job take a time at most. -/
structure AnswersWithin (connection : Connection) (command : Command)
    (answers : Request → Delivery → Duration → Prop) (request question : Duration) : Prop where
  request : ∀ url delivery span, Url.parse (connection.urlText command) = .ok url →
    answers ⟨url, connection.requestTimeout⟩ delivery span → span ≤ request
  question : ∀ jobId url delivery span, connection.questionUrl jobId = .ok url →
    answers ⟨url, connection.requestTimeout⟩ delivery span → span ≤ question

/-- The longest time that a command can take. -/
def longest (connection : Connection) (command : Command) (request question : Duration) :
    Duration :=
  if command.isAsync then
    request.add (connection.asyncTimeout.add (question.add connection.slack))
  else request

/-- Something has ended by an instant; it broke off only if the clock cannot represent when the next
question about a job would have been. -/
structure EndsBy {α : Type} (connection : Connection) (limit t : Instant) (result : Option α) :
    Prop where
  le : t ≤ limit
  broken : result = none → t.later? connection.pollInterval = none

variable {connection : Connection} {command : Command} {request question : Duration}

theorem endsBy_some {α : Type} {limit t : Instant} (h : t ≤ limit) (a : α) :
    connection.EndsBy limit t (some a) := ⟨h, by simp⟩

theorem EndsBy.of_none {α β : Type} {limit later t : Instant}
    (h : connection.EndsBy limit t (none : Option α)) (hle : limit ≤ later) :
    connection.EndsBy later t (none : Option β) :=
  ⟨Instant.le_trans h.le hle, fun _ => h.broken rfl⟩

theorem ensures_send {now : Instant}
    (hrequest : ∀ url delivery span, Url.parse (connection.urlText command) = .ok url →
      answers ⟨url, connection.requestTimeout⟩ delivery span → span ≤ request) :
    (ExceptT.run (connection.send command)).Ensures answers
      (fun t result => t ≤ now.later request ∧ result ≠ none) now := by
  cases hurl : Url.parse (connection.urlText command) with
  | error fault =>
    rw [send, hurl]
    exact .done ⟨Instant.le_later _ _, by simp⟩
  | ok url =>
    rw [exceptRun_send hurl]
    refine .send fun delivery span hanswer => .done ⟨?_, by simp⟩
    exact Nat.add_le_add_left (hrequest url delivery span hurl hanswer) _

theorem ensures_queryJob (h : connection.AnswersWithin command answers request question)
    (jobId : String) (now : Instant) :
    (ExceptT.run (connection.queryJob jobId)).Ensures answers
      (fun t result => t ≤ now.later question ∧ result ≠ none) now := by
  refine Dialogue.ensures_action_bind (ensures_send (h.question jobId)) ?_ ?_ ?_
  · intro t body ht
    exact .done ⟨ht.1, by simp⟩
  · intro t error ht
    exact ⟨ht.1, by simp⟩
  · intro t hnone
    exact absurd rfl hnone.2

theorem later_request_le_longest (now : Instant) :
    now.later request ≤ now.later (connection.longest command request question) := by
  refine Nat.add_le_add_left ?_ _
  rw [longest]
  split
  · exact Nat.le_add_right _ _
  · exact Nat.le_refl _

theorem later_polling_le_longest {now t : Instant} (hasync : command.isAsync = true)
    (ht : t ≤ now.later request) :
    ((t.later connection.asyncTimeout).later connection.slack).later question ≤
      now.later (connection.longest command request question) := by
  have hle : t.nanoseconds ≤ now.nanoseconds + request.nanoseconds := ht
  rw [longest, if_pos hasync]
  show t.nanoseconds + connection.asyncTimeout.nanoseconds + connection.slack.nanoseconds +
      question.nanoseconds ≤ now.nanoseconds + (request.nanoseconds +
        (connection.asyncTimeout.nanoseconds +
          (question.nanoseconds + connection.slack.nanoseconds)))
  omega

/-- Polling ends within the time of a question after its deadline. -/
theorem ensures_pollUntil (h : connection.AnswersWithin command answers request question)
    (name jobId : String) {deadline now : Instant} (limit : Nat)
    (hnow : now ≤ deadline.later connection.slack) :
    (ExceptT.run (connection.pollUntil name jobId deadline limit)).Ensures answers
      (connection.EndsBy ((deadline.later connection.slack).later question)) now := by
  induction limit generalizing now with
  | zero => exact .done (endsBy_some (Instant.le_trans hnow (Instant.le_later _ _)) _)
  | succ limit ih =>
    refine Dialogue.ensures_action_bind (ensures_queryJob h jobId now) ?_ ?_ ?_
    · rintro t job ⟨ht, -⟩
      have hend : t ≤ (deadline.later connection.slack).later question :=
        Instant.le_trans ht (Nat.add_le_add_right hnow _)
      cases hstatus : job.status with
      | succeeded => exact .done (endsBy_some hend _)
      | failed => exact .done (endsBy_some hend _)
      | pending =>
        refine Dialogue.ensures_instantAfter_bind ?_ fun hnone => ⟨hend, fun _ => hnone⟩
        intro next hnext
        split
        · exact .done (endsBy_some hend _)
        · rename_i hearly
          rw [← Instant.later_of_later? hnext] at hearly
          refine Dialogue.ensures_pause_bind (ih ?_)
          exact later_spacing_le (Nat.le_of_not_lt hearly)
    · rintro t error ⟨ht, -⟩
      exact endsBy_some (Instant.le_trans ht (Nat.add_le_add_right hnow _)) _
    · intro t hnone
      exact absurd rfl hnone.2

/-- Waiting for a job ends within the time for polling and that of a question. -/
theorem ensures_waitForJob (h : connection.AnswersWithin command answers request question)
    (name jobId : String) {now : Instant} (htime : connection.HasTime now) :
    (ExceptT.run (connection.waitForJob name jobId)).Ensures answers
      (connection.EndsBy (((now.later connection.asyncTimeout).later connection.slack).later
        question)) now := by
  refine Dialogue.ensures_instantAfter_bind ?_ ?_
  · intro deadline hdeadline
    rw [Instant.later_of_later? hdeadline]
    refine ensures_pollUntil h name jobId _ ?_
    rw [← Instant.later_of_later? hdeadline]
    exact Instant.le_trans (Instant.le_later _ _) (Instant.le_later _ _)
  · intro hnone
    rw [HasTime, hnone] at htime
    exact absurd htime (by simp)

/-- A command ends within the longest time that it can take, if the deadline of its job can be
represented. -/
theorem ensures_executeRaw (h : connection.AnswersWithin command answers request question)
    {now : Instant} (htime : command.isAsync = true → connection.HasTime (now.later request)) :
    (ExceptT.run (connection.executeRaw command)).Ensures answers
      (connection.EndsBy (now.later (connection.longest command request question))) now := by
  refine Dialogue.ensures_action_bind (ensures_send h.request) ?_ ?_ ?_
  · rintro t body ⟨ht, -⟩
    cases hasync : command.isAsync with
    | false =>
      rw [longest, hasync]
      exact .done (endsBy_some ht _)
    | true =>
      have hend : t ≤ now.later (connection.longest command request question) :=
        Instant.le_trans ht (later_request_le_longest _)
      cases startedJob? body with
      | none => exact .done (endsBy_some hend _)
      | some jobId =>
        have hwait := ensures_waitForJob h command.name jobId (hasTime_of_le (htime hasync) ht)
        have hlongest :=
          @later_polling_le_longest connection command request question now t hasync ht
        refine Dialogue.ensures_action_bind hwait ?_ ?_ ?_
        · intro t' job ht'
          exact .done (endsBy_some (Instant.le_trans ht'.le hlongest) _)
        · intro t' error ht'
          exact endsBy_some (Instant.le_trans ht'.le hlongest) _
        · intro t' hnone
          exact hnone.of_none hlongest
  · rintro t error ⟨ht, -⟩
    exact endsBy_some (Instant.le_trans ht (later_request_le_longest _)) _
  · intro t hnone
    exact absurd rfl hnone.2

/-! ## Jobs that do not finish -/

/-- Each question about a job takes the same time, and the job is not finished. -/
def FindsPending (connection : Connection) (answers : Request → Delivery → Duration → Prop)
    (jobId : String) (span : Duration) : Prop :=
  ∀ now, (ExceptT.run (connection.queryJob jobId)).Ensures answers
    (fun t result => t = now.later span ∧ ∃ job, result = some (.ok job) ∧ job.status = .pending)
    now

variable {jobId : String} {span : Duration}

/-- After each question polling gives up if the next one is due beyond the deadline, and goes on
otherwise. -/
theorem ensures_pollUntil_pending (h : connection.FindsPending answers jobId span)
    {name : String} {deadline now : Instant} {limit : Nat}
    {P : Instant → Option (Except ClientError Job) → Prop}
    (hnext : ((now.later span).later connection.pollInterval).fits = true)
    (hover : deadline < (now.later span).later connection.pollInterval →
      P (now.later span) (some (.error (connection.jobOverdue name jobId))))
    (hgoing : (now.later span).later connection.pollInterval ≤ deadline →
      (ExceptT.run (connection.pollUntil name jobId deadline limit)).Ensures answers P
        ((now.later span).later connection.spacing)) :
    (ExceptT.run (connection.pollUntil name jobId deadline (limit + 1))).Ensures answers P now := by
  refine Dialogue.ensures_action_bind (h now) ?_ ?_ ?_
  · rintro _ job ⟨rfl, _, ⟨⟩, hpending⟩
    rw [hpending]
    refine Dialogue.ensures_instantAfter_bind ?_ ?_
    · intro next hinstant
      rw [← Instant.later_of_later? hinstant]
      split
      · exact .done (hover ‹_›)
      · rename_i hearly
        exact Dialogue.ensures_pause_bind (hgoing (Nat.le_of_not_lt hearly))
    · intro hnone
      rw [Instant.later?_eq_some hnext] at hnone
      exact absurd hnone (by simp)
  · rintro _ _ ⟨-, _, ⟨⟩, -⟩
  · rintro _ ⟨-, _, ⟨⟩, -⟩

end Connection

end ControlPlane
