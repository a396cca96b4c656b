import ControlPlane.Identity.AccountType
import ControlPlane.Number.Words

/-!
# Domains, accounts, users and keys

The identity records of the control plane under their wire names. Domains form a hierarchy and
own accounts, accounts own users, and a user may hold a key pair that signs requests.

Main statement: a key pair shows nothing of its secret in its description
(`KeyPair.description_eq`).
-/
namespace ControlPlane

/-- An API key and the secret that signs with it. -/
structure KeyPair where
  apiKey : String
  secretKey : String
  deriving DecidableEq, Repr, Inhabited

namespace KeyPair

/-- The wire form. -/
def shape : Json.Shape := ⟨"ApiKeyPair", ["apikey", "secretkey"]⟩

/-- Decodes a key pair. -/
def ofJson : Json → Json.Decoded KeyPair :=
  shape.decode .refused
    (KeyPair.mk <$> .required "apikey" Json.decodeText <*> .required "secretkey" Json.decodeText)

/-- Encodes a key pair. -/
def toJson (keys : KeyPair) : Json :=
  Json.object [("apikey", .str keys.apiKey), ("secretkey", .str keys.secretKey)]

/-- A key pair as it is shown; the secret is withheld. -/
def description (keys : KeyPair) : String :=
  "ApiKeyPair \x7b apikey: " ++ Text.quoted keys.apiKey ++ ", secretkey: \"<redacted>\" \x7d"

theorem description_eq (apiKey secret secret' : String) :
    description ⟨apiKey, secret⟩ = description ⟨apiKey, secret'⟩ := rfl

end KeyPair

/-- A domain. -/
structure Domain where
  id : String
  name : String
  path : Option String
  parentId : Option String
  level : Option Nat
  deriving DecidableEq, Repr, Inhabited

namespace Domain

/-- The wire form. -/
def shape : Json.Shape := ⟨"Domain", ["id", "name", "path", "parentdomainid", "level"]⟩

/-- Decodes a domain. -/
def ofJson : Json → Json.Decoded Domain :=
  shape.decode .refused
    (Domain.mk <$> .required "id" Json.decodeText <*> .required "name" Json.decodeText
      <*> .optional "path" Json.decodeText <*> .optional "parentdomainid" Json.decodeText
      <*> .optional "level" (Json.decodeUnsigned "u32" Number.greatest32))

/-- Encodes a domain. -/
def toJson (domain : Domain) : Json :=
  Json.object
    [("id", .str domain.id), ("name", .str domain.name), ("path", Json.optional domain.path),
      ("parentdomainid", Json.optional domain.parentId),
      ("level", match domain.level with
        | some n => Json.nat n
        | none => .null)]

/-- The name of the domain that every installation starts with. -/
def rootName : String := "ROOT"

/-- Whether this is the top of the hierarchy, and not a subdomain that shares its name. -/
def isRoot (domain : Domain) : Bool :=
  domain.name == rootName && domain.parentId.isNone

end Domain

/-- A user. -/
structure User where
  id : String
  username : String
  account : Option String
  accountId : Option String
  domainId : Option String
  accountType : Option AccountType
  email : Option String
  firstName : Option String
  lastName : Option String
  state : Option String
  apiKey : Option String
  secretKey : Option String
  deriving DecidableEq, Repr, Inhabited

namespace User

/-- The wire form. -/
def shape : Json.Shape :=
  ⟨"User", ["id", "username", "account", "accountid", "domainid", "accounttype", "email",
    "firstname", "lastname", "state", "apikey", "secretkey"]⟩

/-- Decodes a user. -/
def ofJson : Json → Json.Decoded User :=
  shape.decode .refused
    (User.mk <$> .required "id" Json.decodeText <*> .required "username" Json.decodeText
      <*> .optional "account" Json.decodeText <*> .optional "accountid" Json.decodeText
      <*> .optional "domainid" Json.decodeText <*> .optional "accounttype" AccountType.ofJson
      <*> .optional "email" Json.decodeText <*> .optional "firstname" Json.decodeText
      <*> .optional "lastname" Json.decodeText <*> .optional "state" Json.decodeText
      <*> .optional "apikey" Json.decodeText <*> .optional "secretkey" Json.decodeText)

/-- Encodes a user. -/
def toJson (user : User) : Json :=
  Json.object
    [("id", .str user.id), ("username", .str user.username),
      ("account", Json.optional user.account), ("accountid", Json.optional user.accountId),
      ("domainid", Json.optional user.domainId),
      ("accounttype", match user.accountType with
        | some kind => kind.toJson
        | none => .null),
      ("email", Json.optional user.email), ("firstname", Json.optional user.firstName),
      ("lastname", Json.optional user.lastName), ("state", Json.optional user.state),
      ("apikey", Json.optional user.apiKey), ("secretkey", Json.optional user.secretKey)]

/-- The key pair of a user, when both halves are known. -/
def keyPair? (user : User) : Option KeyPair :=
  match user.apiKey, user.secretKey with
  | some apiKey, some secretKey => some ⟨apiKey, secretKey⟩
  | _, _ => none

end User

/-- An account. -/
structure Account where
  id : String
  name : String
  accountType : AccountType
  domainId : String
  domain : Option String
  state : Option String
  users : List User
  deriving DecidableEq, Repr, Inhabited

namespace Account

/-- The wire form. -/
def shape : Json.Shape :=
  ⟨"Account", ["id", "name", "accounttype", "domainid", "domain", "state", "user"]⟩

/-- Decodes an account. -/
def ofJson : Json → Json.Decoded Account :=
  shape.decode .refused
    (Account.mk <$> .required "id" Json.decodeText <*> .required "name" Json.decodeText
      <*> .required "accounttype" AccountType.ofJson <*> .required "domainid" Json.decodeText
      <*> .optional "domain" Json.decodeText <*> .optional "state" Json.decodeText
      <*> .withDefault "user" [] (Json.decodeList User.ofJson))

/-- Encodes an account. -/
def toJson (account : Account) : Json :=
  Json.object
    [("id", .str account.id), ("name", .str account.name),
      ("accounttype", account.accountType.toJson), ("domainid", .str account.domainId),
      ("domain", Json.optional account.domain), ("state", Json.optional account.state),
      ("user", .arr (account.users.map User.toJson))]

end Account

end ControlPlane
