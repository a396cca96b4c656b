import ControlPlane.Json.Decode
import ControlPlane.Settings.Basic
import ControlPlane.Transport

/-!
# Client errors

Everything that can go wrong between a command and its result. An error that the server reports
carries a code; four codes mean that the caller was refused, and only those. A batch treats two
kinds of error as running out of time, and two kinds belong to a job.

Main statements: `isAuthorizationFailure_ofCode` — a code is a refusal exactly when it is 401,
403, 432 or 531 — and `message_ofCode`, that either kind names the command, the code and the
reason.
-/
namespace ControlPlane

/-- What went wrong. -/
inductive ClientError where
  | http (failure : TransportFailure)
  | timeout (detail : String)
  | unauthorized (command : String) (code : Nat) (reason : String)
  | api (command : String) (code : Nat) (reason : String)
  | notFound (what : String)
  | jobFailed (jobId : String) (code : Option Nat) (reason : String)
  | jobTimedOut (jobId : String) (reason : String)
  | invalidCommand (reason : String)
  | invalidResponse (reason : String)
  | serialization (error : Json.DecodeError)
  | database (reason : String)
  | settings (error : SettingsError)
  | signing (reason : String)
  deriving Repr, BEq

namespace ClientError

/-- The codes by which the control plane refuses a caller. -/
def refusals : List Nat := [401, 403, 432, 531]

/-- The error of a code and a reason that the server gave for a command. -/
def ofCode (command : String) (code : Nat) (reason : String) : ClientError :=
  if refusals.contains code then .unauthorized command code reason else .api command code reason

/-- An error in words. -/
def message : ClientError → String
  | .http failure => "HTTP error: " ++ failure.message
  | .timeout detail => "Timed out: " ++ detail
  | .unauthorized command code reason =>
    "Not authorized to call " ++ command ++ ": " ++ Number.text code ++ " - " ++ reason
  | .api command code reason =>
    "API error from " ++ command ++ ": " ++ Number.text code ++ " - " ++ reason
  | .notFound what => "Not found: " ++ what
  | .jobFailed jobId _ reason => "Async job " ++ jobId ++ " failed: " ++ reason
  | .jobTimedOut jobId reason => "Async job " ++ jobId ++ " still pending: " ++ reason
  | .invalidCommand reason => "Invalid command: " ++ reason
  | .invalidResponse reason => "Unexpected response: " ++ reason
  | .serialization error => "Serialization error: " ++ error.message
  | .database reason => "Database error: " ++ reason
  | .settings error => "Configuration error: " ++ error.message
  | .signing reason => "Signing error: " ++ reason

/-- What led to the error, the nearest cause first. -/
def causes : ClientError → List String
  | .http failure => failure.message :: failure.causes
  | .serialization error => [error.message]
  | .database reason => [reason]
  | .settings error => [error.message]
  | _ => []

/-- The code that the server gave. -/
def code? : ClientError → Option Nat
  | .unauthorized _ code _ | .api _ code _ => some code
  | .jobFailed _ code _ => code
  | _ => none

/-- The job that the error belongs to. -/
def jobId? : ClientError → Option String
  | .jobFailed jobId _ _ | .jobTimedOut jobId _ => some jobId
  | _ => none

/-- Whether the server refused the caller. -/
def isAuthorizationFailure : ClientError → Bool
  | .unauthorized _ _ _ => true
  | _ => false

/-- Whether time ran out. -/
def isTimeout : ClientError → Bool
  | .timeout _ | .jobTimedOut _ _ => true
  | _ => false

/-! ## Codes -/

theorem isAuthorizationFailure_ofCode (command : String) (code : Nat) (reason : String) :
    (ofCode command code reason).isAuthorizationFailure = true ↔
      code = 401 ∨ code = 403 ∨ code = 432 ∨ code = 531 := by
  unfold ofCode
  split
  · rename_i h
    simpa [isAuthorizationFailure, refusals] using h
  · rename_i h
    simpa [isAuthorizationFailure, refusals] using h

@[simp] theorem code?_ofCode (command : String) (code : Nat) (reason : String) :
    (ofCode command code reason).code? = some code := by
  unfold ofCode
  split <;> rfl

theorem message_ofCode (command : String) (code : Nat) (reason : String) :
    ∃ opening, (ofCode command code reason).message =
      opening ++ command ++ ": " ++ Number.text code ++ " - " ++ reason := by
  unfold ofCode
  split
  · exact ⟨_, rfl⟩
  · exact ⟨_, rfl⟩

end ClientError

end ControlPlane
