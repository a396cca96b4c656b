import ControlPlane.Time.Duration
import ControlPlane.Url.Basic

/-!
# Requests and what becomes of them

A request is a URL and the time its sender waits for the reply. It ends with a reply, or late, or
with a failure on the way; a failure is described by a chain of causes, from the request down to
what the network reported.

Main statement: `message_eq` — every failure of a request that could be written names its URL.
-/
namespace ControlPlane

/-- A request for one URL. -/
structure Request where
  url : Url
  patience : Duration
  deriving Repr

/-- Why no reply came. -/
inductive TransportFailure where
  | badUrl (fault : Url.Fault)
  | unreachable (url : String)
  | unresolvedHost (url : String)
  | closedEarly (url : String)
  deriving Repr, DecidableEq

namespace TransportFailure

/-- The sentence for a request that failed on the way. -/
def sendingMessage (url : String) : String :=
  "error sending request for url (" ++ url ++ ")"

/-- A failure in words. -/
def message : TransportFailure → String
  | .badUrl _ => "builder error"
  | .unreachable url | .unresolvedHost url | .closedEarly url => sendingMessage url

/-- What led to the failure, the nearest cause first. -/
def causes : TransportFailure → List String
  | .badUrl fault => [fault.message]
  | .unreachable _ =>
    ["client error (Connect)", "tcp connect error", "Network is unreachable (os error 101)"]
  | .unresolvedHost _ =>
    ["client error (Connect)", "dns error",
      "failed to lookup address information: Temporary failure in name resolution"]
  | .closedEarly _ =>
    ["client error (SendRequest)", "connection closed before message completed"]

/-- The URL of a request that could be written. -/
def url? : TransportFailure → Option String
  | .badUrl _ => none
  | .unreachable url | .unresolvedHost url | .closedEarly url => some url

theorem message_eq {failure : TransportFailure} {url : String} (h : failure.url? = some url) :
    failure.message = sendingMessage url := by
  cases failure <;> simp_all [url?, message]

end TransportFailure

/-- How a request ends. -/
inductive Delivery where
  | reply (status : Nat) (body : String)
  | late
  | failed (failure : TransportFailure)
  deriving Repr, DecidableEq

end ControlPlane
