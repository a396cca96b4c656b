import ControlPlane.Json.Decode
import ControlPlane.Number.Words
import ControlPlane.Time.Timestamp

/-!
# Asynchronous jobs

Some commands only start a job, which has to be asked about until it has finished. A job is
pending, or it has succeeded or failed with a result.

Main statements: a status is given back by its number (`JobStatus.ofCode?_code`), and only a
failed job has an error (`Job.error?_eq_none_of_ne`).
-/
namespace ControlPlane

/-- How far a job is. -/
inductive JobStatus where
  | pending
  | succeeded
  | failed
  deriving DecidableEq, Repr, Inhabited

namespace JobStatus

/-- The number of a status. -/
def code : JobStatus → Nat
  | .pending => 0
  | .succeeded => 1
  | .failed => 2

/-- The status of a number. -/
def ofCode? : Nat → Option JobStatus
  | 0 => some .pending
  | 1 => some .succeeded
  | 2 => some .failed
  | _ => none

/-- What is said of a number that is no status. -/
def invalidCode (n : Nat) : String :=
  "invalid job status: " ++ Number.text n

/-- The name of a status. -/
def text : JobStatus → String
  | .pending => "pending"
  | .succeeded => "succeeded"
  | .failed => "failed"

/-- Decodes a status from its number. -/
def ofJson (value : Json) : Json.Decoded JobStatus := do
  let n ← Json.decodeUnsigned "u8" 255 value
  match ofCode? n with
  | some status => .ok status
  | none => .error (.rejected (invalidCode n))

@[simp] theorem ofCode?_code (status : JobStatus) : ofCode? status.code = some status := by
  cases status <;> rfl

end JobStatus

/-- A job as the control plane reports it. -/
structure Job where
  id : String
  status : JobStatus
  resultCode : Option Int
  resultType : Option String
  result : Option Json
  command : Option String
  created : Option String
  deriving Repr, BEq, Inhabited

namespace Job

/-- The wire form. -/
def shape : Json.Shape :=
  ⟨"AsyncJobResult", ["jobid", "jobstatus", "jobresultcode", "jobresulttype", "jobresult", "cmd",
    "created"]⟩

/-- Decodes a job. -/
def ofJson : Json → Json.Decoded Job :=
  shape.decode .refused
    (Job.mk <$> .required "jobid" Json.decodeText <*> .required "jobstatus" JobStatus.ofJson
      <*> .optional "jobresultcode" Json.decodeSigned64
      <*> .optional "jobresulttype" Json.decodeText <*> .optional "jobresult" Json.raw
      <*> .optional "cmd" Json.decodeText <*> .optional "created" Json.decodeText)

/-- Encodes a job. -/
def toJson (job : Job) : Json :=
  Json.object
    [("jobid", .str job.id), ("jobstatus", Json.nat job.status.code),
      ("jobresultcode", match job.resultCode with
        | some i => Json.int i
        | none => .null),
      ("jobresulttype", Json.optional job.resultType), ("jobresult", job.result.getD .null),
      ("cmd", Json.optional job.command), ("created", Json.optional job.created)]

/-- Whether the job has come to an end. -/
def isFinished (job : Job) : Bool :=
  job.status != .pending

/-- What is said of a failed job that gives no reason. -/
def unexplained : String := "async job failed without error text"

/-- The code in a job's result, if it is a number of 16 bits. -/
def errorCode? (job : Job) : Option Nat :=
  match (job.result.bind (·.get? "errorcode")).bind Json.natural? with
  | some n => if n ≤ Number.greatest16 then some n else none
  | none => none

/-- The reason in a job's result. -/
def errorText (job : Job) : String :=
  ((job.result.bind (·.get? "errortext")).bind Json.text?).getD unexplained

/-- Code and reason of a failed job. -/
def error? (job : Job) : Option (Option Nat × String) :=
  if job.status = .failed then some (job.errorCode?, job.errorText) else none

/-- When the job was created. -/
def createdAt? (job : Job) : Option Timestamp :=
  job.created.bind Timestamp.read

theorem error?_eq_none_of_ne {job : Job} (h : job.status ≠ .failed) : job.error? = none := by
  simp [error?, h]

end Job

end ControlPlane
