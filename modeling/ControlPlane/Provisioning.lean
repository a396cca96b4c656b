import ControlPlane.Privilege

/-!
# Providing users

To act as the user of an account, a test needs the account's domain, the account, its user and
the user's keys. Domain and account are looked up by their exact names and created when missing;
the user has to exist; keys are taken from the listing, asked for when their secret is withheld,
and registered when there are none.

Main statement: `label_chars` — the mail address of a new account has a label of letters, digits and
dashes only.
-/
namespace ControlPlane

/-- Everything behind a user's client. -/
structure UserCredentials where
  domain : Domain
  account : Account
  user : User
  keys : KeyPair
  deriving DecidableEq, Repr

namespace Provisioning

/-- The password of accounts that are created. -/
def defaultPassword : String := "password"

/-! ## Mail addresses -/

/-- The character of a label that stands for any character. -/
def labelChar (c : Char) : Char :=
  if c.isAlphanum then c else '-'

/-- Text without the dashes around it. -/
def trimDashes (cs : List Char) : List Char :=
  ((cs.dropWhile (· == '-')).reverse.dropWhile (· == '-')).reverse

/-- The label of a domain in a mail address. -/
def label (domainName : String) : List Char :=
  trimDashes ((Text.lowercase domainName.toList).map labelChar)

/-- The mail address of an account in a domain, with six random characters. -/
def mailAddress (domainName : String) (random : List Char) : String :=
  String.ofList
    ("test-".toList ++ Text.lowercase random ++ ['@'] ++ label domainName ++ ".test".toList)

/-! ## Finding or creating -/

/-- The domain of a name, created if it is missing. -/
def ensureDomain (client : Client) (name : String) : Action Domain := do
  let domains ← client.listDomains { name := some name, listAll := some true }
  match domains.find? fun domain => domain.name == name with
  | some domain => return domain
  | none => client.createDomain { name }

/-- An account of a name that is to be created. -/
def newAccount (name : String) (domain : Domain) (accountType : AccountType)
    (random : List Char) : NewAccount where
  accountType
  domainId := domain.id
  email := mailAddress domain.name random
  firstName := name
  lastName := name
  password := defaultPassword
  username := name

/-- The account of a name in a domain, created if it is missing. -/
def ensureAccount (client : Client) (name : String) (domain : Domain)
    (accountType : AccountType) : Action Account := do
  let accounts ← client.listAccounts
    { name := some name, domainId := some domain.id, listAll := some true }
  match accounts.find? fun account => account.name == name with
  | some account => return account
  | none => do
    let random ← Action.ofDialogue (Dialogue.letters 6)
    client.createAccount (newAccount name domain accountType random)

/-- The error of an account without a user. -/
def noUser (account : Account) : ClientError :=
  .notFound ("user of account '" ++ account.name ++ "' in domain " ++ account.domainId)

/-- The first user of an account. -/
def findUser (client : Client) (account : Account) : Action User := do
  let users ← client.listUsers
    { username := some account.name, account := some account.name,
      domainId := some account.domainId, listAll := some true }
  match users with
  | user :: _ => return user
  | [] => throw (noUser account)

/-- The keys of a user: known, withheld, or yet to be registered. -/
def ensureKeys (client : Client) (user : User) : Action KeyPair :=
  match user.keyPair? with
  | some keys => return keys
  | none =>
    if user.apiKey.isSome then client.getUserKeys user.id else client.registerUserKeys user.id

/-- Everything that a client of the account's user needs. -/
def ensureUser (client : Client) (accountName domainName : String)
    (accountType : AccountType) : Action UserCredentials := do
  let domain ← ensureDomain client domainName
  let account ← ensureAccount client accountName domain accountType
  let user ← findUser client account
  let keys ← ensureKeys client user
  return { domain, account, user, keys }

/-- A client of the account's user. Without admin privileges nothing can be provided, and the
client at hand is the answer. -/
def userClient (client : Client) (classifier : Classifier) (accountName domainName : String)
    (accountType : AccountType) : Action Client := do
  let tier ← classifier.classify client
  if tier.isAdmin then
    let credentials ← ensureUser client accountName domainName accountType
    return client.derive credentials.keys
  else return client

/-! ## Labels -/

theorem mem_trimDashes {cs : List Char} {c : Char} (h : c ∈ trimDashes cs) : c ∈ cs := by
  have h₁ : c ∈ (cs.dropWhile (· == '-')).reverse.dropWhile (· == '-') := by
    simpa [trimDashes] using h
  have h₂ := (List.dropWhile_sublist _).mem h₁
  exact (List.dropWhile_sublist _).mem (List.mem_reverse.1 h₂)

theorem label_chars {domainName : String} {c : Char} (h : c ∈ label domainName) :
    c.isAlphanum = true ∨ c = '-' := by
  have h := mem_trimDashes h
  obtain ⟨d, -, rfl⟩ := List.mem_map.1 h
  unfold labelChar
  split
  · rename_i hd; exact .inl hd
  · exact .inr rfl

end Provisioning

end ControlPlane
