import ControlPlane.Identity.Records
import ControlPlane.Time.Duration
import ControlPlane.Url.Percent

/-!
# Settings

What a test client has to know: the management server and its bootstrap credentials, the
database beside it, and the limits for jobs and workers. Every setting has a default.

`Settings.validate` refuses settings that no client can work with; the first fault in a fixed
order is reported.

Main statement: `validate_default` — the defaults are valid.
-/
namespace ControlPlane

/-- The management server and the credentials to start with. -/
structure ManagementSettings where
  scheme : String := "http"
  host : String := "localhost"
  port : Nat := 8096
  path : String := "/client/api"
  username : String := "admin"
  password : String := "password"
  apiKey : Option String := none
  secretKey : Option String := none
  requestTimeoutSecs : Nat := 60
  deriving DecidableEq, Repr, Inhabited

/-- The database of the management server. -/
structure DatabaseSettings where
  host : String := "localhost"
  port : Nat := 3306
  user : String := "cloud"
  password : String := "cloud"
  name : String := "cloud"
  deriving DecidableEq, Repr, Inhabited

/-- All settings of a test client. -/
structure Settings where
  management : ManagementSettings := {}
  database : Option DatabaseSettings := none
  asyncTimeoutSecs : Nat := 3600
  pollIntervalMs : Nat := 1000
  defaultWorkers : Nat := 10
  hypervisor : Option String := none
  deriving DecidableEq, Repr, Inhabited

namespace ManagementSettings

/-- The URL that commands are sent to. -/
def endpoint (settings : ManagementSettings) : String :=
  let path :=
    if settings.path.toList.head? = some '/' then settings.path else "/" ++ settings.path
  settings.scheme ++ "://" ++ settings.host ++ ":" ++ Number.text settings.port ++ path

/-- The key pair to start with, when both halves are set. -/
def keyPair? (settings : ManagementSettings) : Option KeyPair :=
  match settings.apiKey, settings.secretKey with
  | some apiKey, some secretKey => some ⟨apiKey, secretKey⟩
  | _, _ => none

/-- How long one request may take. -/
def requestTimeout (settings : ManagementSettings) : Duration :=
  .ofSeconds settings.requestTimeoutSecs

end ManagementSettings

/-- The address of the database. -/
def DatabaseSettings.url (settings : DatabaseSettings) : String :=
  "mysql://" ++ Url.encodeString settings.user ++ ":" ++ Url.encodeString settings.password ++
    "@" ++ settings.host ++ ":" ++ Number.text settings.port ++ "/" ++ settings.name

/-- Why settings cannot be used. -/
inductive SettingsFault where
  | emptyHost
  | portZero
  | unsupportedScheme (scheme : String)
  | halfKeyPair
  | timeoutZero
  | noWorkers
  deriving DecidableEq, Repr

/-- A fault in words. -/
def SettingsFault.message : SettingsFault → String
  | .emptyHost => "management host is empty"
  | .portZero => "management port cannot be 0"
  | .unsupportedScheme scheme => "unsupported scheme '" ++ scheme ++ "'"
  | .halfKeyPair => "api_key and secret_key must be set together"
  | .timeoutZero => "timeouts must be positive"
  | .noWorkers => "default_worker_threads must be at least 1"

/-- Why there are no settings. -/
inductive SettingsError where
  | unreadable (path : String) (reason : String)
  | unparsable (reason : String)
  | invalid (fault : SettingsFault)
  deriving DecidableEq, Repr

/-- An error in words. -/
def SettingsError.message : SettingsError → String
  | .unreadable path reason => "Failed to read config file " ++ Text.quoted path ++ ": " ++ reason
  | .unparsable reason => "Failed to parse config: " ++ reason
  | .invalid fault => "Config validation failed: " ++ fault.message

namespace Settings

/-- Upper bound for one asynchronous job. -/
def asyncTimeout (settings : Settings) : Duration :=
  .ofSeconds settings.asyncTimeoutSecs

/-- Delay between two questions about a job. -/
def pollInterval (settings : Settings) : Duration :=
  .ofMilliseconds settings.pollIntervalMs

/-- The first fault of the settings. -/
def fault? (settings : Settings) : Option SettingsFault :=
  let management := settings.management
  if management.host.isEmpty then some .emptyHost
  else if management.port = 0 then some .portZero
  else if management.scheme ≠ "http" ∧ management.scheme ≠ "https" then
    some (.unsupportedScheme management.scheme)
  else if management.apiKey.isSome ≠ management.secretKey.isSome then some .halfKeyPair
  else if management.requestTimeoutSecs = 0 ∨ settings.asyncTimeoutSecs = 0 then some .timeoutZero
  else if settings.defaultWorkers = 0 then some .noWorkers
  else none

/-- Accepts settings that a client can work with. -/
def validate (settings : Settings) : Except SettingsError Unit :=
  match settings.fault? with
  | some fault => .error (.invalid fault)
  | none => .ok ()

theorem validate_default : validate {} = .ok () := by
  simp [validate, fault?]

end Settings

end ControlPlane
