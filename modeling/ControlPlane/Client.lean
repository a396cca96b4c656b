import ControlPlane.Connection

/-!
# Clients

A client runs commands over a connection, on behalf of a test and for a hypervisor, both of which
it may carry as labels. Deriving a client gives it other keys and keeps the labels.

Main statements: a derived client has the given keys, and everything else of the one it was
derived from (`derive_credentials`, `derive_labels`).
-/
namespace ControlPlane

/-- A client for the control plane. -/
structure Client where
  connection : Connection
  /-- The test that the client works for. -/
  identifier : Option String := none
  hypervisor : Option String := none
  deriving DecidableEq, Repr

/-- An optional text as it is shown. -/
def describeOptional : Option String → String
  | some s => "Some(" ++ Text.quoted s ++ ")"
  | none => "None"

namespace Client

/-- A client as it is shown; credentials other than the API key are withheld. -/
def description (client : Client) : String :=
  "ApiClient \x7b endpoint: " ++ Text.quoted client.connection.endpoint ++ ", api_key: " ++
    describeOptional client.connection.apiKey? ++ ", identifier: " ++
    describeOptional client.identifier ++ ", hypervisor: " ++
    describeOptional client.hypervisor ++ " \x7d"

/-- The client labelled with a test. -/
def withIdentifier (client : Client) (identifier : Option String) : Client :=
  { client with identifier }

/-- The client of other keys. -/
def derive (client : Client) (pair : KeyPair) : Client :=
  { client with connection := client.connection.withKeys pair }

/-- Runs a command, and waits for its job if it starts one. -/
def executeRaw (client : Client) (command : Command) : Action CommandOutput :=
  client.connection.executeRaw command

/-- Runs a command of the catalogue. -/
def execute {α : Type} (client : Client) (call : Call α) : Action α :=
  client.connection.execute call

/-- The domains that pass a filter. -/
def listDomains (client : Client) (filter : DomainFilter) : Action (List Domain) := do
  let listing ← client.execute filter.call
  return listing.items

/-- Creates a domain. -/
def createDomain (client : Client) (domain : NewDomain) : Action Domain :=
  client.execute domain.call

/-- The accounts that pass a filter. -/
def listAccounts (client : Client) (filter : AccountFilter) : Action (List Account) := do
  let listing ← client.execute filter.call
  return listing.items

/-- Creates an account. -/
def createAccount (client : Client) (account : NewAccount) : Action Account :=
  client.execute account.call

/-- The error of a deletion that does not report success. -/
def deletionUnconfirmed (id : String) : ClientError :=
  .invalidResponse ("deleteAccount " ++ id ++ " did not report success")

/-- Deletes an account and waits until it is gone. -/
def deleteAccount (client : Client) (id : String) : Action Unit := do
  let report ← client.execute (Call.deleteAccount id)
  if report.isSuccess then return () else throw (deletionUnconfirmed id)

/-- The users that pass a filter. -/
def listUsers (client : Client) (filter : UserFilter) : Action (List User) := do
  let listing ← client.execute filter.call
  return listing.items

/-- Gives a user a new key pair. -/
def registerUserKeys (client : Client) (userId : String) : Action KeyPair :=
  client.execute (Call.registerUserKeys userId)

/-- The key pair of a user. -/
def getUserKeys (client : Client) (userId : String) : Action KeyPair :=
  client.execute (Call.getUserKeys userId)

/-- How far a job is. -/
def jobResult (client : Client) (jobId : String) : Action Job :=
  client.execute (Call.jobResult jobId)

/-! ## Derived clients -/

@[simp] theorem derive_credentials (client : Client) (pair : KeyPair) :
    (client.derive pair).connection.credentials = .keys pair := rfl

theorem derive_labels (client : Client) (pair : KeyPair) :
    (client.derive pair).identifier = client.identifier ∧
      (client.derive pair).hypervisor = client.hypervisor := ⟨rfl, rfl⟩

end Client

end ControlPlane
