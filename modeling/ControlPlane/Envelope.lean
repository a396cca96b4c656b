import ControlPlane.ClientError
import ControlPlane.Json.Parser
import ControlPlane.Json.Printer
import ControlPlane.Number.Words
import ControlPlane.Text.Blank
import ControlPlane.Text.Lowercase

/-!
# Reply envelopes

A reply to a command wraps its content in an object: under the command's name in lower case
followed by `response`, or under `errorresponse`, or not at all. A content with an error code is
an error whatever the HTTP status; without one the status decides, and success needs an object.

Main statements: a success is an object with a good status and without an error code
(`decode_eq_ok`), and a refusal by status alone stays a refusal (`decode_of_not_json`).
-/
namespace ControlPlane.Envelope

/-- The member that holds the content of a reply. -/
def memberName (command : String) : String :=
  Text.lowercaseString command ++ "response"

/-- The member that holds a general error. -/
def errorMember : String := "errorresponse"

/-- The content of a reply. -/
def content (command : String) (body : Json) : Json :=
  match body.get? (memberName command) with
  | some inner => inner
  | none =>
    match body.get? errorMember with
    | some inner => inner
    | none => body

/-- Whether an HTTP status means success. -/
def isSuccess (status : Nat) : Bool :=
  decide (200 ≤ status) && decide (status < 300)

/-- The error code in a content. -/
def errorCode? (inner : Json) : Option Nat :=
  (inner.get? "errorcode").bind Json.natural?

/-- The reason in a content. -/
def errorText (inner : Json) : String :=
  ((inner.get? "errortext").bind Json.text?).getD ""

/-- The error code, or the status where the code has more than 16 bits. -/
def effectiveCode (code status : Nat) : Nat :=
  if code ≤ Number.greatest16 then code else status

/-- What the content of a reply amounts to. -/
def judge (command : String) (status : Nat) (inner : Json) : Except ClientError Json :=
  match errorCode? inner with
  | some code => .error (.ofCode command (effectiveCode code status) (errorText inner))
  | none =>
    if !isSuccess status then .error (.ofCode command status inner.compact)
    else if !inner.isObject then
      .error (.invalidResponse (command ++ " returned no '" ++ memberName command ++ "' object"))
    else .ok inner

/-- Decodes a reply. -/
def decode (command : String) (status : Nat) (text : String) : Except ClientError Json :=
  match Json.parse text with
  | some body => judge command status (content command body)
  | none =>
    if isSuccess status then .error (.invalidResponse (command ++ " returned a non-JSON body"))
    else .error (.ofCode command status (Text.trimString text))

/-! ## What is accepted -/

theorem judge_eq_ok {command : String} {status : Nat} {inner value : Json}
    (h : judge command status inner = .ok value) :
    value = inner ∧ isSuccess status = true ∧ inner.isObject = true ∧
      errorCode? inner = none := by
  unfold judge at h
  split at h
  · simp at h
  · rename_i hcode
    split at h
    · simp at h
    · rename_i hstatus
      split at h
      · simp at h
      · rename_i hobject
        refine ⟨?_, by simpa using hstatus, by simpa using hobject, hcode⟩
        injection h with h
        exact h.symm

theorem decode_eq_ok {command : String} {status : Nat} {text : String} {value : Json}
    (h : decode command status text = .ok value) :
    ∃ body, Json.parse text = some body ∧ value = content command body ∧
      isSuccess status = true ∧ value.isObject = true ∧ errorCode? value = none := by
  unfold decode at h
  split at h
  · rename_i body hbody
    obtain ⟨rfl, hs, ho, hc⟩ := judge_eq_ok h
    exact ⟨body, hbody, rfl, hs, ho, hc⟩
  · split at h <;> simp at h

theorem decode_of_not_json {command : String} {status : Nat} {text : String}
    (hjson : Json.parse text = none) (hstatus : isSuccess status = false) :
    decode command status text = .error (.ofCode command status (Text.trimString text)) := by
  simp [decode, hjson, hstatus]

end ControlPlane.Envelope
