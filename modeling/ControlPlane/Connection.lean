import ControlPlane.Command.Catalogue
import ControlPlane.Dialogue
import ControlPlane.Envelope
import ControlPlane.Signing

/-!
# Connections

A connection knows one endpoint and the credentials for it. It writes commands as requests,
decodes their replies, and asks about the jobs they start until these have finished or the time
for them is up.

The parameters that the connection sets itself are reserved: a caller's parameters of these names
are left out. A job is asked about at intervals; the next question is put only if it comes before
the deadline, so the number of questions is bounded by the deadline and the interval, and
`questionLimit` is never reached.

Main statements: no reserved name is left among a caller's parameters (`mem_admitted`), and a
connection with new keys differs in its credentials only (`withKeys_eq`).
-/
namespace ControlPlane

/-- How requests are authenticated. -/
inductive Credentials where
  /-- Not at all: the integration port trusts its callers. -/
  | integration
  | keys (pair : KeyPair)
  deriving DecidableEq, Repr

namespace Credentials

/-- The credentials of settings with or without a key pair. -/
def ofKeyPair? : Option KeyPair → Credentials
  | some pair => .keys pair
  | none => .integration

/-- The API key that requests carry. -/
def apiKey? : Credentials → Option String
  | .integration => none
  | .keys pair => some pair.apiKey

/-- Credentials as they are shown. -/
def description : Credentials → String
  | .integration => "Integration"
  | .keys pair => "Keys(" ++ pair.description ++ ")"

end Credentials

/-- What a command came to. -/
structure CommandOutput where
  /-- The job that was waited for. -/
  jobId : Option String
  body : Json
  deriving Repr, BEq

/-- A connection to one endpoint. -/
structure Connection where
  endpoint : String
  credentials : Credentials
  username : String
  password : String
  requestTimeout : Duration
  asyncTimeout : Duration
  pollInterval : Duration
  deriving DecidableEq, Repr

namespace Connection

/-- A connection with the bootstrap credentials of settings. -/
def ofSettings (settings : ManagementSettings) (asyncTimeout pollInterval : Duration) :
    Connection where
  endpoint := settings.endpoint
  credentials := .ofKeyPair? settings.keyPair?
  username := settings.username
  password := settings.password
  requestTimeout := settings.requestTimeout
  asyncTimeout := asyncTimeout
  pollInterval := pollInterval

/-- The same connection, signing with other keys. -/
def withKeys (connection : Connection) (pair : KeyPair) : Connection :=
  { connection with credentials := .keys pair }

/-- The API key that requests carry. -/
def apiKey? (connection : Connection) : Option String :=
  connection.credentials.apiKey?

/-- A connection as it is shown; password and secret are withheld. -/
def description (connection : Connection) : String :=
  "Connection \x7b endpoint: " ++ Text.quoted connection.endpoint ++ ", credentials: " ++
    connection.credentials.description ++ ", username: " ++ Text.quoted connection.username ++
    ", async_timeout: " ++ connection.asyncTimeout.description ++ " \x7d"

/-! ## Writing requests -/

/-- The parameters that the connection sets itself. -/
def reserved : List String := ["command", "response", "apikey", "signature"]

/-- The parameters of a caller that are sent. -/
def admitted (params : Dictionary String) : Signing.Parameters :=
  params.filter fun param => !reserved.contains param.1

/-- The parameters of a command before it is signed. -/
def parameters (command : Command) : Signing.Parameters :=
  ("command", command.name) :: ("response", "json") :: admitted command.params

/-- The query of a command under given credentials. -/
def query (credentials : Credentials) (command : Command) : String :=
  match credentials with
  | .integration => Signing.canonicalQuery (parameters command)
  | .keys pair =>
    Signing.signedQuery (parameters command ++ [("apikey", pair.apiKey)]) pair.secretKey

/-- The URL of a command, as it is written. -/
def urlText (connection : Connection) (command : Command) : String :=
  connection.endpoint ++ "?" ++ query connection.credentials command

/-- What the end of a request means for its command. -/
def receive (command : Command) (url : Url) : Delivery → Except ClientError Json
  | .reply status body => Envelope.decode command.name status body
  | .late =>
    .error (.timeout (command.name ++ ": " ++ TransportFailure.sendingMessage url.text))
  | .failed failure => .error (.http failure)

/-- Sends a command and decodes the reply. -/
def send (connection : Connection) (command : Command) : Action Json :=
  match Url.parse (connection.urlText command) with
  | .error fault => throw (.http (.badUrl fault))
  | .ok url => do
    let delivery ← Action.ofDialogue (Dialogue.ask ⟨url, connection.requestTimeout⟩)
    Action.ofExcept (receive command url delivery)

/-- A decoded value, or the error that it is none. -/
def decoded {α : Type} : Json.Decoded α → Except ClientError α
  | .ok a => .ok a
  | .error error => .error (.serialization error)

/-! ## Jobs -/

/-- The question how far a job is. -/
def jobQuestion (jobId : String) : Command :=
  (Command.named "queryAsyncJobResult").param "jobid" jobId

/-- Asks once how far a job is. -/
def queryJob (connection : Connection) (jobId : String) : Action Job := do
  let body ← connection.send (jobQuestion jobId)
  Action.ofExcept (decoded (Job.ofJson body))

/-- The error of a job that failed. -/
def jobFailure (jobId : String) (job : Job) : ClientError :=
  .jobFailed jobId job.errorCode? job.errorText

/-- The error of a job that has not finished in time. -/
def jobOverdue (connection : Connection) (command jobId : String) : ClientError :=
  .jobTimedOut jobId
    (command ++ " did not finish within " ++ connection.asyncTimeout.description)

/-- The time between two questions; a clock has a grain of a millisecond. -/
def spacing (connection : Connection) : Duration :=
  if connection.pollInterval = .zero then .ofMilliseconds 1 else connection.pollInterval

/-- More questions than fit before the deadline. -/
def questionLimit (connection : Connection) : Nat :=
  connection.asyncTimeout.nanoseconds / connection.spacing.nanoseconds + 2

/-- Asks about a job until it has finished or the deadline comes before the next question. Breaks
off if the clock cannot represent when the next question would be. -/
def pollUntil (connection : Connection) (command jobId : String) (deadline : Instant) :
    Nat → Action Job
  | 0 => throw (connection.jobOverdue command jobId)
  | limit + 1 => do
    let job ← connection.queryJob jobId
    match job.status with
    | .succeeded => return job
    | .failed => throw (jobFailure jobId job)
    | .pending =>
      let next ← Action.instantAfter connection.pollInterval
      if deadline < next then
        throw (connection.jobOverdue command jobId)
      else
        Action.ofDialogue (Dialogue.pause connection.spacing)
        connection.pollUntil command jobId deadline limit

/-- Asks about a job until it has finished or the time for it is up. -/
def waitForJob (connection : Connection) (command jobId : String) : Action Job := do
  let deadline ← Action.instantAfter connection.asyncTimeout
  connection.pollUntil command jobId deadline connection.questionLimit

/-! ## Running commands -/

/-- The job that a reply names. -/
def startedJob? (body : Json) : Option String :=
  match body.get? "jobid" with
  | some (.str id) => some id
  | some (.num n) => some n.text
  | _ => none

/-- Runs a command, and waits for its job if it starts one. -/
def executeRaw (connection : Connection) (command : Command) : Action CommandOutput := do
  let body ← connection.send command
  if !command.isAsync then return ⟨none, body⟩
  match startedJob? body with
  | none => throw (.invalidResponse (command.name ++ " is async but returned no jobid"))
  | some jobId =>
    let job ← connection.waitForJob command.name jobId
    return ⟨some jobId, job.result.getD (.obj [])⟩

/-- Runs a command of the catalogue. -/
def execute {α : Type} (connection : Connection) (call : Call α) : Action α := do
  let output ← connection.executeRaw call.toCommand
  Action.ofExcept (decoded (call.decode output.body))

/-! ## Reserved parameters -/

theorem mem_admitted {params : Dictionary String} {param : String × String}
    (h : param ∈ admitted params) : param ∈ params ∧ param.1 ∉ reserved := by
  simpa [admitted] using h

theorem withKeys_eq (connection : Connection) (pair : KeyPair) :
    { connection.withKeys pair with credentials := connection.credentials } = connection := rfl

end Connection

end ControlPlane
