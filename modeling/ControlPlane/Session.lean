import ControlPlane.Batch.Runner
import ControlPlane.Provisioning
import ControlPlane.Settings.Wire

/-!
# Sessions

A session is what a test suite works through: an administrator's client from the settings, a
classifier of its privileges, a runner for batches, and the label of the current test. A batch
may take the time of one job and one request.

A fixture is an account that a test has set up, with a client of its user; it is deleted through
the session when the test is done.

Main statements: the description of a session shows no secret (`description_eq`), and the client
of a session carries its label (`apiClient_identifier`).
-/
namespace ControlPlane

/-- A session with a control plane. -/
structure Session where
  settings : Settings
  /-- The client with the bootstrap credentials, without a label. -/
  client : Client
  table : Option JobTable
  classifier : Classifier
  runner : JobRunner
  identifier : Option String

namespace Session

/-- The time for a batch: one job and one request, if that is a duration of 64 bits. -/
def batchTimeout? (settings : Settings) : Option Duration :=
  let sum := settings.asyncTimeout.add settings.management.requestTimeout
  if sum.fits then some sum else none

/-- A session over a client and a database; none if its time limits are no duration. -/
def assemble? (settings : Settings) (client : Client) (table : Option JobTable) :
    Option Session := do
  let batchTimeout ← batchTimeout? settings
  pure
    { settings, client, table
      classifier := .standard
      runner := { client, table, batchTimeout }
      identifier := none }

/-- The client of settings. -/
def bootstrapClient (settings : Settings) : Client where
  connection :=
    .ofSettings settings.management settings.asyncTimeout settings.pollInterval
  hypervisor := settings.hypervisor

/-- What is said when the database of the settings does not answer. -/
def databaseUnavailable : ClientError :=
  .database "error communicating with database: Network is unreachable (os error 101)"

/-- Opens a session, or says why not; the inner result is absent if its time limits are no
duration. -/
def connect (settings : Settings) : Except ClientError (Option Session) := do
  match settings.validate with
  | .error error => throw (.settings error)
  | .ok () =>
    if settings.database.isSome then throw databaseUnavailable
    return assemble? settings (bootstrapClient settings) none

/-- The session with another classifier. -/
def withClassifier (session : Session) (classifier : Classifier) : Session :=
  { session with classifier }

/-- The session at work for a test. -/
def withIdentifier (session : Session) (identifier : String) : Session :=
  { session with identifier := some identifier }

/-- The administrator's client, labelled with the current test. -/
def apiClient (session : Session) : Client :=
  session.client.withIdentifier session.identifier

/-- A session as it is shown. -/
def description (session : Session) : String :=
  "TestClient \x7b api: " ++ session.client.description ++ ", database: " ++
    (if session.table.isSome then "true" else "false") ++ ", identifier: " ++
    describeOptional session.identifier ++ " \x7d"

/-- What the bootstrap credentials may do. -/
def privilegeTier (session : Session) : Action PrivilegeTier :=
  session.classifier.classify session.client

/-- Whether the bootstrap credentials can provide users. -/
def isAdminContext (session : Session) : Action Bool := do
  let tier ← session.privilegeTier
  return tier.isAdmin

/-- Everything behind the user of an account. -/
def ensureUser (session : Session) (accountName domainName : String)
    (accountType : AccountType) : Action UserCredentials :=
  Provisioning.ensureUser session.client accountName domainName accountType

/-- A client of the account's user, labelled with the current test. -/
def userClient (session : Session) (accountName domainName : String)
    (accountType : AccountType) : Action Client := do
  let client ←
    Provisioning.userClient session.client session.classifier accountName domainName accountType
  return client.withIdentifier session.identifier

/-- Runs commands that are submitted all at once; without a number of workers the one of the
settings counts. -/
def submitAll {σ : Type} (session : Session) (commands : List Command) (workers : Option Nat)
    (world : World σ) : Option BatchReport × World σ :=
  session.runner.submitAll commands (workers.getD session.settings.defaultWorkers) world

/-- Two sessions that differ in their secrets and settings look the same. -/
theorem description_eq (session : Session) (settings : Settings) :
    { session with settings }.description = session.description := rfl

@[simp] theorem apiClient_identifier (session : Session) :
    session.apiClient.identifier = session.identifier := rfl

end Session

/-- An account that a test has set up, and a client of its user. -/
structure Fixture where
  credentials : UserCredentials
  client : Client

namespace Fixture

/-- Sets up the account of a test. -/
def setup (session : Session) (accountName domainName : String) (accountType : AccountType) :
    Action Fixture := do
  let credentials ← session.ensureUser accountName domainName accountType
  return { credentials, client := session.apiClient.derive credentials.keys }

/-- Deletes the account of a test. -/
def teardown (session : Session) (fixture : Fixture) : Action Unit :=
  session.apiClient.deleteAccount fixture.credentials.account.id

end Fixture

end ControlPlane
