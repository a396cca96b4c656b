import ControlPlane.JobTable
import ControlPlane.Time.Timestamp

/-!
# Outcomes of a batch

A batch runs many commands, and each of them has an outcome of its own: a body, a reason why
there is none, or the statement that time ran out. The report of a batch lists the outcomes in
the order in which the commands were submitted.

Main statement: `succeeded_add_failed` — every outcome is a success or a failure.
-/
namespace ControlPlane

/-- How a command of a batch ended. -/
inductive JobResult where
  | succeeded (body : Json)
  | failed (reason : String)
  | timedOut
  deriving Repr, BEq

/-- What became of one command of a batch. -/
structure JobOutcome where
  /-- The position of the command in the batch. -/
  index : Nat
  command : String
  jobId : Option String
  started : Instant
  ended : Instant
  duration : Duration
  result : JobResult
  /-- What the database knows of the job. -/
  record : Option JobRecord
  deriving Repr, BEq

/-- The outcomes of a batch in the order of submission. -/
structure BatchReport where
  outcomes : List JobOutcome
  elapsed : Duration
  deriving Repr, BEq

namespace JobResult

/-- How an error counts in a batch. -/
def ofError (error : ClientError) : JobResult :=
  if error.isTimeout then .timedOut else .failed error.message

end JobResult

namespace JobOutcome

/-- Whether the command succeeded. -/
def isSuccess (outcome : JobOutcome) : Bool :=
  match outcome.result with
  | .succeeded _ => true
  | _ => false

/-- What is said of a command whose worker broke off. -/
def noResult : String := "worker ended without a result"

/-- The outcome of a command that has none of its own. -/
def unfinished (index : Nat) (command : String) (started ended : Instant) (timedOut : Bool) :
    JobOutcome where
  index
  command
  jobId := none
  started
  ended
  duration := ended.since started
  result := if timedOut then .timedOut else .failed noResult
  record := none

end JobOutcome

/-! ## As documents -/

/-- A duration as a record. -/
def Duration.toJson (d : Duration) : Json :=
  .obj [("secs", Json.nat d.seconds), ("nanos", Json.nat d.nanos)]

/-- An instant as universal time. -/
def Instant.toJson (t : Instant) : Json :=
  let sinceStart : Duration := ⟨t.nanoseconds⟩
  .str (Timestamp.universalText sinceStart.seconds sinceStart.nanos)

/-- A record of a job as it is shown. -/
def JobRecord.toJson (record : JobRecord) : Json :=
  .obj
    [("status", Json.int record.status), ("created", Json.optional record.created),
      ("last_updated", Json.optional record.lastUpdated)]

/-- A result as it is shown. -/
def JobResult.toJson : JobResult → Json
  | .succeeded body => .obj [("status", .str "succeeded"), ("body", body)]
  | .failed reason => .obj [("status", .str "failed"), ("error", .str reason)]
  | .timedOut => .obj [("status", .str "timed_out")]

/-- An outcome as it is shown. -/
def JobOutcome.toJson (outcome : JobOutcome) : Json :=
  .obj
    [("index", Json.nat outcome.index), ("command", .str outcome.command),
      ("job_id", Json.optional outcome.jobId), ("started_at", outcome.started.toJson),
      ("ended_at", outcome.ended.toJson), ("duration", outcome.duration.toJson),
      ("result", outcome.result.toJson),
      ("db_record", match outcome.record with
        | some record => record.toJson
        | none => .null)]

namespace BatchReport

/-- A report as it is shown. -/
def toJson (report : BatchReport) : Json :=
  .obj
    [("outcomes", .arr (report.outcomes.map JobOutcome.toJson)),
      ("elapsed", report.elapsed.toJson)]

/-- The number of commands that succeeded. -/
def succeeded (report : BatchReport) : Nat :=
  (report.outcomes.filter JobOutcome.isSuccess).length

/-- The outcomes of the commands that did not succeed. -/
def failed (report : BatchReport) : List JobOutcome :=
  report.outcomes.filter fun outcome => !outcome.isSuccess

/-- Whether every command succeeded. -/
def allSucceeded (report : BatchReport) : Bool :=
  report.outcomes.all JobOutcome.isSuccess

theorem succeeded_add_failed (report : BatchReport) :
    report.succeeded + report.failed.length = report.outcomes.length := by
  simp only [succeeded, failed]
  induction report.outcomes with
  | nil => rfl
  | cons outcome rest ih =>
    by_cases h : outcome.isSuccess = true
    · simp [h]; omega
    · simp [h]; omega

theorem allSucceeded_iff (report : BatchReport) :
    report.allSucceeded = true ↔ report.failed = [] := by
  rw [allSucceeded, failed, List.all_eq_true, List.filter_eq_nil_iff]
  simp only [Bool.not_eq_true', Bool.not_eq_false]

/-- If the outcomes are in their places, those that are no successes are listed in order. -/
theorem pairwise_failed {report : BatchReport}
    (h : ∀ k (outcome : JobOutcome), report.outcomes[k]? = some outcome → outcome.index = k) :
    report.failed.Pairwise fun a b => a.index < b.index := by
  refine List.Pairwise.filter _ (List.pairwise_iff_getElem.2 ?_)
  intro i j hi hj hij
  rw [h i _ (List.getElem?_eq_getElem hi), h j _ (List.getElem?_eq_getElem hj)]
  exact hij

end BatchReport

end ControlPlane
