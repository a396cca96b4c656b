import ControlPlane.Client

/-!
# Privileges of credentials

A probe tells what the credentials in use may do, or that it cannot tell. One probe reads the
type of the caller's own account; the other sees whether the root domain is visible. A refusal
means a plain user, or that the probe is no help; any other error is passed on as it is. A
classifier asks its probes in order until one answers.

Main statements: a classifier without probes fails (`classify_nil`), and the probe of the own
account sends nothing for a connection without keys (`accountType_of_integration`).
-/
namespace ControlPlane

/-- Ways to find out what credentials may do. -/
inductive Probe where
  /-- Reads the type of the account that owns the API key. -/
  | accountType
  /-- Looks for the root domain. -/
  | rootDomain
  deriving DecidableEq, Repr

namespace Probe

/-- The name of a probe. -/
def name : Probe → String
  | .accountType => "account-type"
  | .rootDomain => "root-domain"

/-- Whether an account has a user with an API key. -/
def owns (apiKey : String) (account : Account) : Bool :=
  account.users.any fun user => user.apiKey == some apiKey

/-- The tier of the account that owns an API key. -/
def ownTier? (apiKey : String) (accounts : List Account) : Option PrivilegeTier :=
  (accounts.find? (owns apiKey)).map fun account => account.accountType.tier

/-- The tier of a caller that may list these domains of the root's name. -/
def tierOfDomains (domains : List Domain) : PrivilegeTier :=
  if domains.any Domain.isRoot then .rootAdmin else .domainAdmin

/-- An action whose refusal stands for a value. -/
def orIfRefused {α : Type} (action : Action α) (value : α) : Action α :=
  tryCatch action fun error =>
    if error.isAuthorizationFailure then return value else throw error

/-- Asks a probe; no tier means that it cannot tell. -/
def ask (client : Client) : Probe → Action (Option PrivilegeTier)
  | .accountType =>
    match client.connection.apiKey? with
    | none => return none
    | some apiKey =>
      orIfRefused (do
        let accounts ← client.listAccounts {}
        return ownTier? apiKey accounts) none
  | .rootDomain =>
    orIfRefused (do
      let domains ← client.listDomains { name := some Domain.rootName }
      return some (tierOfDomains domains)) (some .user)

theorem accountType_of_integration {client : Client}
    (h : client.connection.credentials = .integration) :
    ask client .accountType = (pure none : Action (Option PrivilegeTier)) := by
  simp [ask, Connection.apiKey?, h, Credentials.apiKey?]

end Probe

/-- Probes in the order in which they are asked. -/
abbrev Classifier := List Probe

namespace Classifier

/-- The own account first, the root domain if that does not tell. -/
def standard : Classifier := [.accountType, .rootDomain]

/-- The root domain alone. -/
def heuristic : Classifier := [.rootDomain]

/-- What is said when no probe could tell. -/
def inconclusive : ClientError :=
  .invalidResponse "no privilege probe could classify the credentials"

/-- The tier of the credentials in use. -/
def classify (client : Client) : Classifier → Action PrivilegeTier
  | [] => throw inconclusive
  | probe :: rest => do
    match ← probe.ask client with
    | some tier => return tier
    | none => classify client rest

theorem classify_nil (client : Client) : classify client [] = throw inconclusive := rfl

end Classifier

end ControlPlane
