import ControlPlane.Batch.Runner

/-!
# What outcomes tell

The outcome of a command in a batch is made of what the command came to: a body or an error
(`JobRunner.IsMadeOf`). So it tells of it what a reader of the report wants to know: the job, the
body, the reason of a failure or that time ran out, and what the database knows of the job
(`IsMadeOf.tells`). Outcomes that are made of the same say the same (`IsMadeOf.sameAs`).
-/

namespace ControlPlane

/-! ## Outcomes and results -/

/-- What an outcome says of what its command came to. The record is the row of the job, if there is
a job and a row that can be read. -/
structure JobOutcome.Tells (table : Option JobTable) (result : Except ClientError CommandOutput)
    (outcome : JobOutcome) : Prop where
  succeeded : ∀ output, result = .ok output →
    outcome.jobId = output.jobId ∧ outcome.result = .succeeded output.body
  timedOut : ∀ error, result = .error error →
    ((∃ detail, error = .timeout detail) ∨ ∃ jobId reason, error = .jobTimedOut jobId reason) →
      outcome.jobId = error.jobId? ∧ outcome.result = .timedOut
  failed : ∀ error, result = .error error →
    (∀ detail, error ≠ .timeout detail) → (∀ jobId reason, error ≠ .jobTimedOut jobId reason) →
      outcome.jobId = error.jobId? ∧ outcome.result = .failed error.message
  record : ∀ found, outcome.record = some found ↔ ∃ rows jobId row, table = some rows ∧
    outcome.jobId = some jobId ∧ JobTable.find? rows jobId = some row ∧
      row.status = some found.status ∧ found = ⟨found.status, row.created, row.lastUpdated⟩

/-- Whether two outcomes say the same of one command. -/
structure JobOutcome.SameAs (outcome other : JobOutcome) : Prop where
  command : outcome.command = other.command
  jobId : outcome.jobId = other.jobId
  result : outcome.result = other.result
  record : outcome.record = other.record

theorem JobTable.record?_eq_some_iff {rows : JobTable} {jobId : String} {found : JobRecord} :
    rows.record? jobId = some found ↔ ∃ row, rows.find? jobId = some row ∧
      row.status = some found.status ∧
        found = ⟨found.status, row.created, row.lastUpdated⟩ := by
  rw [record?, record]
  cases rows.find? jobId with
  | none => simp
  | some row =>
    cases hstatus : row.status with
    | none => simp [hstatus]
    | some status =>
      simp only [hstatus, Option.some.injEq]
      constructor
      · rintro rfl
        exact ⟨row, rfl, hstatus, rfl⟩
      · rintro ⟨_, rfl, hfound, heq⟩
        rw [hstatus, Option.some.injEq] at hfound
        rw [hfound, ← heq]

theorem JobResult.ofError_of_isTimeout {error : ClientError} (h : error.isTimeout = true) :
    ofError error = .timedOut :=
  if_pos h

theorem JobResult.ofError_of_not_isTimeout {error : ClientError} (h : error.isTimeout = false) :
    ofError error = .failed error.message :=
  if_neg (by simp [h])

namespace JobRunner

theorem recordOf_eq_some_iff {table : Option JobTable} {job : Option String} {found : JobRecord} :
    recordOf table job = some found ↔ ∃ rows jobId row, table = some rows ∧ job = some jobId ∧
      JobTable.find? rows jobId = some row ∧ row.status = some found.status ∧
        found = ⟨found.status, row.created, row.lastUpdated⟩ := by
  cases table with
  | none => simp [recordOf]
  | some rows =>
    cases job with
    | none => simp [recordOf]
    | some jobId =>
      rw [recordOf, JobTable.record?_eq_some_iff]
      simp

/-- Whether an outcome is made of what its command came to. -/
structure IsMadeOf (table : Option JobTable) (output : Except ClientError CommandOutput)
    (outcome : JobOutcome) : Prop where
  jobId : outcome.jobId = (conclude output).1
  result : outcome.result = (conclude output).2
  record : outcome.record = recordOf table (conclude output).1

theorem IsMadeOf.tells {table : Option JobTable} {output : Except ClientError CommandOutput}
    {outcome : JobOutcome} (h : IsMadeOf table output outcome) : outcome.Tells table output := by
  obtain ⟨hjob, hresult, hrecord⟩ := h
  refine ⟨?_, ?_, ?_, ?_⟩
  · rintro output rfl
    exact ⟨hjob, hresult⟩
  · rintro error rfl htimeout
    refine ⟨hjob, hresult.trans (JobResult.ofError_of_isTimeout ?_)⟩
    rcases htimeout with ⟨detail, rfl⟩ | ⟨jobId, reason, rfl⟩
    · rfl
    · rfl
  · rintro error rfl htimeout hjobTimedOut
    refine ⟨hjob, hresult.trans (JobResult.ofError_of_not_isTimeout ?_)⟩
    unfold ClientError.isTimeout
    split
    · exact absurd rfl (htimeout _)
    · exact absurd rfl (hjobTimedOut _ _)
    · rfl
  · intro found
    rw [hrecord, ← hjob]
    exact recordOf_eq_some_iff

/-- An outcome is a success exactly if the command came to an output. -/
theorem IsMadeOf.isSuccess_iff {table : Option JobTable}
    {output : Except ClientError CommandOutput} {outcome : JobOutcome}
    (h : IsMadeOf table output outcome) :
    outcome.isSuccess = true ↔ ∃ own, output = .ok own := by
  rw [JobOutcome.isSuccess, h.result]
  cases output with
  | ok own => exact ⟨fun _ => ⟨own, rfl⟩, fun _ => rfl⟩
  | error error =>
    cases htimeout : error.isTimeout with
    | true => simp [conclude, JobResult.ofError_of_isTimeout htimeout]
    | false => simp [conclude, JobResult.ofError_of_not_isTimeout htimeout]

theorem IsMadeOf.sameAs {table : Option JobTable} {output : Except ClientError CommandOutput}
    {outcome other : JobOutcome} (h : IsMadeOf table output outcome)
    (hother : IsMadeOf table output other) (hcommand : outcome.command = other.command) :
    outcome.SameAs other :=
  ⟨hcommand, h.jobId.trans hother.jobId.symm, h.result.trans hother.result.symm,
    h.record.trans hother.record.symm⟩

end JobRunner

end ControlPlane
