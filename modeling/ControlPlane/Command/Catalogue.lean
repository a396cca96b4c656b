import ControlPlane.Command.Basic
import ControlPlane.Identity.Records
import ControlPlane.Job
import ControlPlane.Number.Words

/-!
# The commands of the control plane

Each command that the client knows has a name, runs at once or as a job, takes a record of
fields and answers with a record. `Call` puts the four together; the functions below it are the
commands.

Main statements: `toCommand_name` and `toCommand_isAsync` — a call is sent under its own name,
as a job if it is one — and `ofValue_fields`, that it is the command which is written as the object
of its fields.
-/
namespace ControlPlane

/-- A command whose answer is decoded as `α`. -/
structure Call (α : Type) where
  name : String
  isAsync : Bool
  fields : List (String × Json)
  decode : Json → Json.Decoded α

namespace Call

variable {α : Type}

/-- The parameters in the order of their names. -/
def params (call : Call α) : List (String × String) :=
  (Command.flatten? (Json.object call.fields)).getD []

/-- The command that is sent. -/
def toCommand (call : Call α) : Command :=
  ⟨call.name, call.isAsync, Dictionary.ofList call.params⟩

@[simp] theorem toCommand_name (call : Call α) : call.toCommand.name = call.name := rfl

@[simp] theorem toCommand_isAsync (call : Call α) : call.toCommand.isAsync = call.isAsync := rfl

theorem ofValue_fields (call : Call α) :
    Command.ofValue call.name call.isAsync (Json.object call.fields) = .ok call.toCommand := rfl

/-- A field that is left out when it has no value. -/
def given (name : String) : Option String → List (String × Json)
  | some value => [(name, .str value)]
  | none => []

/-- A truth value that is left out when it is not given. -/
def givenFlag (name : String) : Option Bool → List (String × Json)
  | some value => [(name, .bool value)]
  | none => []

end Call

/-- A list of records with a count. -/
structure Listing (α : Type) where
  count : Option Nat
  items : List α
  deriving Repr, DecidableEq

namespace Listing

variable {α : Type}

/-- Decodes a listing whose records are under a member. -/
def ofJson (title member : String) (item : Json → Json.Decoded α) :
    Json → Json.Decoded (Listing α) :=
  Json.Shape.decode ⟨title, ["count", member]⟩ .refused
    (Listing.mk <$> .optional "count" (Json.decodeUnsigned "u64" Number.greatest64)
      <*> .withDefault member [] (Json.decodeList item))

/-- Decodes a list of domains. -/
def domains : Json → Json.Decoded (Listing Domain) :=
  ofJson "ListDomainsResponse" "domain" Domain.ofJson

/-- Decodes a list of accounts. -/
def accounts : Json → Json.Decoded (Listing Account) :=
  ofJson "ListAccountsResponse" "account" Account.ofJson

/-- Decodes a list of users. -/
def users : Json → Json.Decoded (Listing User) :=
  ofJson "ListUsersResponse" "user" User.ofJson

end Listing

/-- Decodes a record that is the only member of another. -/
def decodeWrapped {α : Type} (title member : String) (item : Json → Json.Decoded α) :
    Json → Json.Decoded α :=
  Json.Shape.decode ⟨title, [member]⟩ .refused (.required member item)

/-- Decodes the domain that was created. -/
def Domain.ofCreated : Json → Json.Decoded Domain :=
  decodeWrapped "CreateDomainResponse" "domain" Domain.ofJson

/-- Decodes the account that was created. -/
def Account.ofCreated : Json → Json.Decoded Account :=
  decodeWrapped "CreateAccountResponse" "account" Account.ofJson

/-- Decodes the key pair of a user. -/
def KeyPair.ofUserKeys : Json → Json.Decoded KeyPair :=
  decodeWrapped "UserKeysResponse" "userkeys" KeyPair.ofJson

/-- The answer of commands that only report success. -/
structure SuccessReport where
  success : Option Json
  displayText : Option String
  deriving Repr, BEq

namespace SuccessReport

/-- The wire form. -/
def shape : Json.Shape := ⟨"SuccessResponse", ["success", "displaytext"]⟩

/-- Decodes a report. -/
def ofJson : Json → Json.Decoded SuccessReport :=
  shape.decode .refused
    (SuccessReport.mk <$> .optional "success" Json.raw <*> .optional "displaytext" Json.decodeText)

/-- Whether a text is another one up to the case of ASCII letters. -/
def isSameWord (a b : String) : Bool :=
  a.toList.map Char.toLower == b.toList.map Char.toLower

/-- Whether success is reported, as a truth value or as a word. -/
def isSuccess (report : SuccessReport) : Bool :=
  match report.success with
  | some (.bool b) => b
  | some (.str s) => isSameWord s "true"
  | _ => false

end SuccessReport

/-! ## Domains -/

/-- Which domains to list. -/
structure DomainFilter where
  id : Option String := none
  name : Option String := none
  listAll : Option Bool := none
  deriving Repr, DecidableEq

/-- Lists domains. -/
def DomainFilter.call (filter : DomainFilter) : Call (Listing Domain) where
  name := "listDomains"
  isAsync := false
  fields := Call.given "id" filter.id ++ Call.given "name" filter.name ++
    Call.givenFlag "listall" filter.listAll
  decode := Listing.domains

/-- A domain to be created. -/
structure NewDomain where
  name : String
  parentId : Option String := none
  deriving Repr, DecidableEq

/-- Creates a domain. -/
def NewDomain.call (domain : NewDomain) : Call Domain where
  name := "createDomain"
  isAsync := false
  fields := ("name", .str domain.name) :: Call.given "parentdomainid" domain.parentId
  decode := Domain.ofCreated

/-! ## Accounts -/

/-- Which accounts to list. -/
structure AccountFilter where
  id : Option String := none
  name : Option String := none
  domainId : Option String := none
  listAll : Option Bool := none
  deriving Repr, DecidableEq

/-- Lists accounts. -/
def AccountFilter.call (filter : AccountFilter) : Call (Listing Account) where
  name := "listAccounts"
  isAsync := false
  fields := Call.given "id" filter.id ++ Call.given "name" filter.name ++
    Call.given "domainid" filter.domainId ++ Call.givenFlag "listall" filter.listAll
  decode := Listing.accounts

/-- An account to be created, with its first user. -/
structure NewAccount where
  accountType : AccountType
  domainId : String
  email : String
  firstName : String
  lastName : String
  password : String
  username : String
  account : Option String := none
  deriving Repr, DecidableEq

/-- Creates an account. -/
def NewAccount.call (account : NewAccount) : Call Account where
  name := "createAccount"
  isAsync := false
  fields :=
    [("accounttype", account.accountType.toJson), ("domainid", .str account.domainId),
      ("email", .str account.email), ("firstname", .str account.firstName),
      ("lastname", .str account.lastName), ("password", .str account.password),
      ("username", .str account.username)] ++ Call.given "account" account.account
  decode := Account.ofCreated

/-- Deletes an account. -/
def Call.deleteAccount (id : String) : Call SuccessReport where
  name := "deleteAccount"
  isAsync := true
  fields := [("id", .str id)]
  decode := SuccessReport.ofJson

/-! ## Users and keys -/

/-- Which users to list. -/
structure UserFilter where
  id : Option String := none
  username : Option String := none
  account : Option String := none
  domainId : Option String := none
  listAll : Option Bool := none
  deriving Repr, DecidableEq

/-- Lists users. -/
def UserFilter.call (filter : UserFilter) : Call (Listing User) where
  name := "listUsers"
  isAsync := false
  fields := Call.given "id" filter.id ++ Call.given "username" filter.username ++
    Call.given "account" filter.account ++ Call.given "domainid" filter.domainId ++
    Call.givenFlag "listall" filter.listAll
  decode := Listing.users

/-- Gives a user a new key pair. -/
def Call.registerUserKeys (userId : String) : Call KeyPair where
  name := "registerUserKeys"
  isAsync := false
  fields := [("id", .str userId)]
  decode := KeyPair.ofUserKeys

/-- Asks for the key pair of a user. -/
def Call.getUserKeys (userId : String) : Call KeyPair where
  name := "getUserKeys"
  isAsync := false
  fields := [("id", .str userId)]
  decode := KeyPair.ofUserKeys

/-! ## Jobs -/

/-- Asks how far a job is. -/
def Call.jobResult (jobId : String) : Call Job where
  name := "queryAsyncJobResult"
  isAsync := false
  fields := [("jobid", .str jobId)]
  decode := Job.ofJson

end ControlPlane
