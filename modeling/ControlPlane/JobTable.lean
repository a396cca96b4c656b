import ControlPlane.ClientError

/-!
# Persisted jobs

The database of the management server keeps a row for every job. Looking a job up reads its row,
if there is one; a row without a status cannot be read.

Main statement: `find?_append_of_ne` — rows of other jobs do not matter.
-/
namespace ControlPlane

/-- What the database knows of a job. -/
structure JobRecord where
  status : Int
  created : Option String
  lastUpdated : Option String
  deriving DecidableEq, Repr

/-- A row of the table of jobs. -/
structure JobRow where
  jobId : String
  status : Option Int
  created : Option String
  lastUpdated : Option String
  deriving DecidableEq, Repr

/-- The table of jobs. -/
abbrev JobTable := List JobRow

namespace JobTable

/-- The row of a job. -/
def find? (table : JobTable) (jobId : String) : Option JobRow :=
  List.find? (fun row => row.jobId == jobId) table

/-- What is said of a row without a status. -/
def statusMissing : ClientError :=
  .database "error occurred while decoding column \"job_status\": unexpected null"

/-- The record of a job, none if there is no row. -/
def record (table : JobTable) (jobId : String) : Except ClientError (Option JobRecord) :=
  match table.find? jobId with
  | none => .ok none
  | some row =>
    match row.status with
    | some status => .ok (some ⟨status, row.created, row.lastUpdated⟩)
    | none => .error statusMissing

/-- The record of a job, none also if its row cannot be read. -/
def record? (table : JobTable) (jobId : String) : Option JobRecord :=
  match table.record jobId with
  | .ok record => record
  | .error _ => none

theorem find?_append_of_ne (table : JobTable) {row : JobRow} {jobId : String}
    (h : row.jobId ≠ jobId) : JobTable.find? (row :: table) jobId = table.find? jobId := by
  simp [find?, h]

end JobTable

end ControlPlane
