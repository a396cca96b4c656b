import ControlPlane.CommandLine.Arguments
import ControlPlane.CommandLine.Configuration
import ControlPlane.CommandLine.Output
import ControlPlane.Session

/-!
# Carrying out arguments

Arguments become a plan: an end at once, a dialogue that leads to an end, or a batch whose report
leads to one. An end has an exit code and two texts, for results and for complaints.

A command is called once and shown as it is, or, as soon as it is to be repeated or a number of
workers is given, submitted as a batch and shown as a report; the program fails if any submission
did.

Main statements: a call that is not to be made at all ends at once (`callPlan_of_zero`), and so
does one with a malformed parameter (`callPlan_of_malformed`).
-/
namespace ControlPlane.CommandLine

/-- How the program ends. -/
structure Exit where
  code : Nat
  out : String
  err : String
  deriving DecidableEq, Repr

namespace Exit

/-- A good end. -/
def success (out : String) : Exit := ⟨0, out, ""⟩

/-- An end by failure, after some output. -/
def failureAfter (out err : String) (failure : Failure) : Exit := ⟨1, out, err ++ failure.report⟩

/-- An end by failure. -/
def failure (failure : Failure) : Exit := failureAfter "" "" failure

/-- The end of a program that broke off. -/
def brokenOff : Exit := ⟨101, "", ""⟩

/-- How to use the program. -/
def usage : String :=
  "Usage: stratus [OPTIONS] <COMMAND>\n\nCommands: whoami, user-keys, call, completions, help\n"

/-- The end of a program that was not asked for anything it could do. -/
def refused : Refusal → Exit
  | .usage => ⟨2, "", usage⟩
  | .information => ⟨0, usage, ""⟩

end Exit

/-- What is to be done. -/
inductive Plan where
  | finish (exit : Exit)
  | converse (dialogue : Dialogue Exit)
  | batch (runner : JobRunner) (commands : List Command) (workers : Nat) (interval : Duration)
    (conclude : BatchReport → Exit)

/-- The end of an action. -/
def Plan.ofAction (action : Action Exit) (explain : ClientError → Failure) : Plan :=
  .converse ((ExceptT.run action).bind fun
    | .ok exit => .done exit
    | .error error => .done (.failure (explain error)))

/-! ## The credentials in use -/

/-- How a connection without an API key is shown. -/
def unsignedText : String := "(integration port)"

/-- The row that shows the credentials in use. -/
def whoamiRow (session : Session) (tier : PrivilegeTier) : Row :=
  [("endpoint", .str session.client.connection.endpoint),
    ("api_key", .str (session.client.connection.apiKey?.getD unsignedText)),
    ("tier", .str tier.text), ("admin", .bool tier.isAdmin)]

/-- Shows the credentials in use. -/
def whoamiPlan (session : Session) (format : OutputFormat) : Plan :=
  .ofAction
    (do
      let tier ← session.privilegeTier
      return .success (renderRows format [whoamiRow session tier]))
    fun error => (Failure.ofError error).withContext "Failed to classify credentials"

/-! ## Keys of a user -/

/-- The row that shows the keys of a user. -/
def userKeysRow (credentials : UserCredentials) (showSecret : Bool) : Row :=
  let secret := credentials.keys.secretKey
  [("domain", .str credentials.domain.name), ("account", .str credentials.account.name),
    ("username", .str credentials.user.username), ("user_id", .str credentials.user.id),
    ("apikey", .str credentials.keys.apiKey),
    ("secretkey", .str (if showSecret then secret else maskSecret secret))]

/-- The line above a table of keys. -/
def readyLine (credentials : UserCredentials) : String :=
  line ("✓ User '" ++ credentials.user.username ++ "' ready in account '" ++
    credentials.account.name ++ "' (" ++ credentials.account.id ++ ")")

/-- The keys of a user in a format. -/
def renderUserKeys (format : OutputFormat) (credentials : UserCredentials) (showSecret : Bool) :
    String :=
  (if format = .table then readyLine credentials else "") ++
    renderRows format [userKeysRow credentials showSecret]

/-- What is said when the credentials in use may not provide users. -/
def notAdmin : Failure := .plain "The configured credentials cannot create users or keys"

/-- The context of a user that could not be provided. -/
def prepareContext (account domain : String) : String :=
  "Failed to prepare user '" ++ account ++ "' in domain '" ++ domain ++ "'"

/-- Provides a user and shows its keys. -/
def userKeysPlan (session : Session) (account domain : String) (accountType : AccountType)
    (showSecret : Bool) (format : OutputFormat) : Plan :=
  .ofAction
    (do
      if ← session.isAdminContext then
        let result ← ExceptT.lift (ExceptT.run (session.ensureUser account domain accountType))
        match result with
        | .ok credentials => return .success (renderUserKeys format credentials showSecret)
        | .error error =>
          return .failure ((Failure.ofError error).withContext (prepareContext account domain))
      else return .failure notAdmin)
    .ofError

/-! ## Calls -/

/-- The command of a request. -/
def CallRequest.toCommand (request : CallRequest) : Except Failure Command :=
  match (Command.named request.command).withPairs request.pairs with
  | .ok command => .ok (if request.isAsync then command.asynchronous else command)
  | .error error => .error ((Failure.ofError error).withContext "Invalid parameters")

/-- The time between submissions. -/
def CallRequest.spacing (request : CallRequest) : Except Failure Duration :=
  match request.interval.seconds? with
  | .ok interval => .ok interval
  | .error fault =>
    .error ((Failure.plain fault.message).withContext
      ("Invalid interval: " ++ request.interval.text))

/-- The greatest length of a reason in a table. -/
def detailLimit : Nat := 60

/-- The row of an outcome. -/
def outcomeRow (outcome : JobOutcome) : Row :=
  let (status, detail) := match outcome.result with
    | .succeeded _ => ("succeeded", "")
    | .failed reason => ("failed", truncate detailLimit reason)
    | .timedOut => ("timed out", "")
  [("index", Json.nat outcome.index), ("command", .str outcome.command),
    ("status", .str status), ("job_id", .str (outcome.jobId.getD "-")),
    ("duration", .str outcome.duration.secondsText), ("detail", .str detail)]

/-- The line below a table of outcomes. -/
def summaryLine (report : BatchReport) : String :=
  line (Number.text report.succeeded ++ "/" ++ Number.text report.outcomes.length ++
    " succeeded in " ++ report.elapsed.secondsText)

/-- The number of an outcome. -/
def outcomeMark (outcome : JobOutcome) : String := "#" ++ Number.text outcome.index

/-- The line about a command that did not finish. -/
def overdueLine (outcome : JobOutcome) : String :=
  match outcome.result with
  | .failed _ => ""
  | _ => line ("⚠ " ++ outcomeMark outcome ++ " did not finish in time")

/-- The line about a command that failed. -/
def complaintLine (outcome : JobOutcome) : String :=
  match outcome.result with
  | .failed reason => line ("✗ " ++ outcomeMark outcome ++ ": " ++ reason)
  | _ => ""

/-- The results of a report in a format. -/
def renderReport (format : OutputFormat) (report : BatchReport) : String :=
  match format with
  | .table =>
    renderTable (report.outcomes.map outcomeRow) ++ summaryLine report ++
      String.join (report.failed.map overdueLine)
  | format => renderDocument format report.toJson

/-- The complaints of a report in a format. -/
def renderComplaints (format : OutputFormat) (report : BatchReport) : String :=
  match format with
  | .table => String.join (report.failed.map complaintLine)
  | _ => ""

/-- The end of a batch. -/
def reportExit (format : OutputFormat) (report : BatchReport) : Exit :=
  let out := renderReport format report
  let err := renderComplaints format report
  let failed := report.failed.length
  if failed = 0 then ⟨0, out, err⟩
  else
    .failureAfter out err (.plain (Number.text failed ++ " of " ++
      Number.text report.outcomes.length ++ " submissions failed"))

/-- What is said of a call that is to be made zero times. -/
def atLeastOnce : Failure := .plain "--repeat must be at least 1"

/-- Whether a request is a single call. -/
def CallRequest.isSingle (request : CallRequest) : Bool :=
  request.times == 1 && request.workers.isNone

/-- Calls a command once. -/
def singlePlan (session : Session) (request : CallRequest) (command : Command)
    (format : OutputFormat) : Plan :=
  .ofAction
    (do
      let output ← session.apiClient.executeRaw command
      return .success (renderDocument format output.body))
    fun error => (Failure.ofError error).withContext (request.command ++ " failed")

/-- Calls a command. -/
def callPlan (session : Session) (request : CallRequest) (format : OutputFormat) : Plan :=
  if request.times = 0 then .finish (.failure atLeastOnce)
  else
    match request.toCommand with
    | .error failure => .finish (.failure failure)
    | .ok command =>
      if request.isSingle then singlePlan session request command format
      else
        match request.spacing with
        | .error failure => .finish (.failure failure)
        | .ok interval =>
          .batch session.runner (List.replicate request.times command)
            (request.workers.getD session.settings.defaultWorkers) interval (reportExit format)

/-! ## The program -/

/-- Opens a session with the settings at hand. -/
def openSession (around : Surroundings) (path : Option String) :
    Except Failure (Option Session) := do
  let settings ← around.load path
  match Session.connect settings with
  | .ok session => return session
  | .error error =>
    throw ((Failure.ofError error).withContext
      ("Failed to connect to " ++ settings.management.endpoint))

/-- The plan for a session. -/
def sessionPlan (session : Session) (format : OutputFormat) : Invocation → Plan
  | .whoami => whoamiPlan session format
  | .userKeys account domain accountType showSecret =>
    userKeysPlan session account domain accountType showSecret format
  | .call request => callPlan session request format
  | .completions _ => .finish (.success "")

/-- The plan for arguments. -/
def plan (around : Surroundings) (arguments : List String) : Plan :=
  match Arguments.read arguments with
  | .error refusal => .finish (.refused refusal)
  | .ok ⟨_, _, .completions _⟩ => .finish (.success "")
  | .ok arguments =>
    match openSession around arguments.configPath with
    | .error failure => .finish (.failure failure)
    | .ok none => .finish .brokenOff
    | .ok (some session) =>
      sessionPlan session (OutputFormat.named arguments.output) arguments.invocation

/-- Carries out a plan in a world. -/
def Plan.run {σ : Type} (plan : Plan) (world : World σ) : Exit × World σ :=
  match plan with
  | .finish exit => (exit, world)
  | .converse dialogue =>
    let (exit, world) := dialogue.run world
    (exit.getD .brokenOff, world)
  | .batch runner commands workers interval conclude =>
    let (report, world) := runner.run commands workers interval world
    (match report with
      | some report => conclude report
      | none => .brokenOff, world)

/-! ## Calls that end at once -/

theorem callPlan_of_zero (session : Session) {request : CallRequest} (format : OutputFormat)
    (h : request.times = 0) :
    callPlan session request format = .finish (.failure atLeastOnce) := by
  simp [callPlan, h]

theorem callPlan_of_malformed (session : Session) {request : CallRequest}
    (format : OutputFormat) {failure : Failure} (htimes : request.times ≠ 0)
    (h : request.toCommand = .error failure) :
    callPlan session request format = .finish (.failure failure) := by
  simp [callPlan, htimes, h]

end ControlPlane.CommandLine
