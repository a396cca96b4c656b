import ControlPlane.Json.Decode
import ControlPlane.Text.Lowercase

/-!
# Account types and privilege tiers

The control plane numbers its kinds of account. A kind decides the tier of privilege that the
users of an account act with: two kinds see everything, two administer a domain, two are plain
users.

Main statements: a type is given back by its number (`ofCode?_code`), and only the numbers 0 to
5 are types (`ofCode?_eq_none_iff`).
-/
namespace ControlPlane

/-- What the credentials in use may do. -/
inductive PrivilegeTier where
  | rootAdmin
  | domainAdmin
  | user
  deriving DecidableEq, Repr, Inhabited

namespace PrivilegeTier

/-- Whether the tier may create domains, accounts and keys for others. -/
def isAdmin : PrivilegeTier → Bool
  | .rootAdmin | .domainAdmin => true
  | .user => false

/-- The name of a tier. -/
def text : PrivilegeTier → String
  | .rootAdmin => "root-admin"
  | .domainAdmin => "domain-admin"
  | .user => "user"

/-- All tiers, in the order in which they are listed. -/
def all : List PrivilegeTier := [.rootAdmin, .domainAdmin, .user]

/-- The tier of a name. -/
def named (name : String) : Json.Decoded PrivilegeTier :=
  match all.find? (·.text == name) with
  | some tier => .ok tier
  | none => .error (.unknownVariant name (all.map text))

/-- Decodes a tier: its name, or an object with the name as its only member and null as value. -/
def ofJson : Json → Json.Decoded PrivilegeTier
  | .str name => named name
  | .obj [(name, value)] => do
    let tier ← named name
    match value with
    | .null => .ok tier
    | other => .error (.wrongType other "unit")
  | .obj members => .error (.wrongValue (.obj members) "map with a single key")
  | value => .error (.wrongType value "string or map")

end PrivilegeTier

/-- The kinds of account. -/
inductive AccountType where
  | normal
  | admin
  | domainAdmin
  | resourceDomainAdmin
  | readOnlyAdmin
  | project
  deriving DecidableEq, Repr, Inhabited

namespace AccountType

/-- The number of a kind. -/
def code : AccountType → Nat
  | .normal => 0
  | .admin => 1
  | .domainAdmin => 2
  | .resourceDomainAdmin => 3
  | .readOnlyAdmin => 4
  | .project => 5

/-- The kind of a number. -/
def ofCode? : Nat → Option AccountType
  | 0 => some .normal
  | 1 => some .admin
  | 2 => some .domainAdmin
  | 3 => some .resourceDomainAdmin
  | 4 => some .readOnlyAdmin
  | 5 => some .project
  | _ => none

/-- What is said of a number that is no kind of account. -/
def invalidCode (n : Nat) : String :=
  "invalid account type: " ++ Number.text n

/-- The kind of a name as a person writes it, in any letter case. -/
def named? (name : String) : Option AccountType :=
  match Text.lowercaseString name with
  | "user" | "normal" | "0" => some .normal
  | "admin" | "1" => some .admin
  | "domain-admin" | "domainadmin" | "2" => some .domainAdmin
  | "resource-domain-admin" | "3" => some .resourceDomainAdmin
  | "read-only-admin" | "4" => some .readOnlyAdmin
  | "project" | "5" => some .project
  | _ => none

/-- What is said of a text that names no kind of account. -/
def unknownName (name : String) : String :=
  "unknown account type '" ++ name ++ "'"

/-- The name of a kind as one word. -/
def title : AccountType → String
  | .normal => "Normal"
  | .admin => "Admin"
  | .domainAdmin => "DomainAdmin"
  | .resourceDomainAdmin => "ResourceDomainAdmin"
  | .readOnlyAdmin => "ReadOnlyAdmin"
  | .project => "Project"

/-- The tier that users of an account of this kind act with. -/
def tier : AccountType → PrivilegeTier
  | .admin | .readOnlyAdmin => .rootAdmin
  | .domainAdmin | .resourceDomainAdmin => .domainAdmin
  | .normal | .project => .user

/-- Decodes a kind from its number. -/
def ofJson (value : Json) : Json.Decoded AccountType := do
  let n ← Json.decodeUnsigned "u8" 255 value
  match ofCode? n with
  | some kind => .ok kind
  | none => .error (.rejected (invalidCode n))

/-- Encodes a kind as its number. -/
def toJson (kind : AccountType) : Json :=
  Json.nat kind.code

/-! ## Numbers and kinds -/

@[simp] theorem ofCode?_code (kind : AccountType) : ofCode? kind.code = some kind := by
  cases kind <;> rfl

theorem ofCode?_eq_none_iff (n : Nat) : ofCode? n = none ↔ 5 < n := by
  unfold ofCode?
  split <;> simp_all
  omega

@[simp] theorem ofJson_toJson (kind : AccountType) : ofJson kind.toJson = .ok kind := by
  cases kind <;> rfl

end AccountType

end ControlPlane
