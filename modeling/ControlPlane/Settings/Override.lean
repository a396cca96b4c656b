import ControlPlane.Settings.Wire

/-!
# Overrides

Variables outside the settings document win over it. A text variable replaces its setting; a
number variable does so only if its text is a number in the setting's range. Any variable of the
database that counts brings the database into being, with defaults for the rest.

Main statement: `override_none` — without variables nothing changes.
-/
namespace ControlPlane

/-- A look-up of variables. -/
abbrev Variables := String → Option String

/-- The value of a number variable, if its text is a number up to `bound`. -/
def Variables.number? (lookup : Variables) (bound : Nat) (name : String) : Option Nat :=
  (lookup name).bind fun text => Number.readUnsigned bound text.toList

/-- A setting that may be absent, after its variable. -/
def Variables.orElse (lookup : Variables) (name : String) (given : Option String) :
    Option String :=
  match lookup name with
  | some text => some text
  | none => given

/-- The settings of the management server after the variables. -/
def ManagementSettings.override (lookup : Variables) (given : ManagementSettings) :
    ManagementSettings :=
  { given with
    scheme := (lookup "STRATUS_MGMT_SCHEME").getD given.scheme
    host := (lookup "STRATUS_MGMT_HOST").getD given.host
    port := (lookup.number? portLimit "STRATUS_MGMT_PORT").getD given.port
    path := (lookup "STRATUS_MGMT_PATH").getD given.path
    username := (lookup "STRATUS_MGMT_USER").getD given.username
    password := (lookup "STRATUS_MGMT_PASSWORD").getD given.password
    apiKey := lookup.orElse "STRATUS_API_KEY" given.apiKey
    secretKey := lookup.orElse "STRATUS_SECRET_KEY" given.secretKey }

/-- Whether a variable of the database counts. -/
def DatabaseSettings.isNamed (lookup : Variables) : Bool :=
  (lookup "STRATUS_DB_HOST").isSome || (lookup.number? portLimit "STRATUS_DB_PORT").isSome ||
    (lookup "STRATUS_DB_USER").isSome || (lookup "STRATUS_DB_PASSWORD").isSome ||
    (lookup "STRATUS_DB_NAME").isSome

/-- The settings of the database after the variables. -/
def DatabaseSettings.override (lookup : Variables) (given : DatabaseSettings) :
    DatabaseSettings :=
  { host := (lookup "STRATUS_DB_HOST").getD given.host
    port := (lookup.number? portLimit "STRATUS_DB_PORT").getD given.port
    user := (lookup "STRATUS_DB_USER").getD given.user
    password := (lookup "STRATUS_DB_PASSWORD").getD given.password
    name := (lookup "STRATUS_DB_NAME").getD given.name }

/-- The settings after the variables. -/
def Settings.override (lookup : Variables) (given : Settings) : Settings :=
  { given with
    management := given.management.override lookup
    database :=
      match given.database with
      | some database => some (database.override lookup)
      | none =>
        if DatabaseSettings.isNamed lookup then some (DatabaseSettings.override lookup {})
        else none
    asyncTimeoutSecs :=
      (lookup.number? wordLimit "STRATUS_ASYNC_TIMEOUT").getD given.asyncTimeoutSecs
    defaultWorkers :=
      (lookup.number? wordLimit "STRATUS_WORKER_THREADS").getD given.defaultWorkers
    hypervisor := lookup.orElse "STRATUS_HYPERVISOR" given.hypervisor }

theorem Settings.override_none (given : Settings) :
    given.override (fun _ => none) = given := by
  obtain ⟨management, database, _, _, _, _⟩ := given
  cases database <;> rfl

end ControlPlane
