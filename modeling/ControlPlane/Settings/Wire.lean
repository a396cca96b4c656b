import ControlPlane.Number.Words
import ControlPlane.Settings.Basic

/-!
# Settings as records

Settings are read from records whose fields may all be left out: an absent field takes its
default. Documents of the two kinds that carry settings differ in one point only, whether items
beyond the last field of a record given as an array are refused.

Main statement: `ofJson_obj_nil` — an empty record stands for the defaults.
-/
namespace ControlPlane

/-- The greatest port. -/
def portLimit : Nat := Number.greatest16

/-- The greatest number of 64 bits. -/
def wordLimit : Nat := Number.greatest64

namespace ManagementSettings

/-- The wire form. -/
def shape : Json.Shape :=
  ⟨"ManagementServerConfig", ["scheme", "host", "port", "path", "username", "password", "api_key",
    "secret_key", "request_timeout_secs"]⟩

/-- Decodes the settings of the management server. -/
def ofJson (surplus : Json.Surplus) : Json → Json.Decoded ManagementSettings :=
  let default : ManagementSettings := {}
  shape.decode surplus
    (ManagementSettings.mk <$> .withDefault "scheme" default.scheme Json.decodeText
      <*> .withDefault "host" default.host Json.decodeText
      <*> .withDefault "port" default.port (Json.decodeUnsigned "u16" portLimit)
      <*> .withDefault "path" default.path Json.decodeText
      <*> .withDefault "username" default.username Json.decodeText
      <*> .withDefault "password" default.password Json.decodeText
      <*> .optional "api_key" Json.decodeText <*> .optional "secret_key" Json.decodeText
      <*> .withDefault "request_timeout_secs" default.requestTimeoutSecs
        (Json.decodeUnsigned "u64" wordLimit))

/-- Encodes the settings of the management server. -/
def toJson (settings : ManagementSettings) : Json :=
  Json.object
    [("scheme", .str settings.scheme), ("host", .str settings.host),
      ("port", Json.nat settings.port), ("path", .str settings.path),
      ("username", .str settings.username), ("password", .str settings.password),
      ("api_key", Json.optional settings.apiKey),
      ("secret_key", Json.optional settings.secretKey),
      ("request_timeout_secs", Json.nat settings.requestTimeoutSecs)]

end ManagementSettings

namespace DatabaseSettings

/-- The wire form. -/
def shape : Json.Shape :=
  ⟨"DatabaseConfig", ["host", "port", "user", "password", "name"]⟩

/-- Decodes the settings of the database. -/
def ofJson (surplus : Json.Surplus) : Json → Json.Decoded DatabaseSettings :=
  let default : DatabaseSettings := {}
  shape.decode surplus
    (DatabaseSettings.mk <$> .withDefault "host" default.host Json.decodeText
      <*> .withDefault "port" default.port (Json.decodeUnsigned "u16" portLimit)
      <*> .withDefault "user" default.user Json.decodeText
      <*> .withDefault "password" default.password Json.decodeText
      <*> .withDefault "name" default.name Json.decodeText)

/-- Encodes the settings of the database. -/
def toJson (settings : DatabaseSettings) : Json :=
  Json.object
    [("host", .str settings.host), ("port", Json.nat settings.port),
      ("user", .str settings.user), ("password", .str settings.password),
      ("name", .str settings.name)]

end DatabaseSettings

namespace Settings

/-- The wire form. -/
def shape : Json.Shape :=
  ⟨"TestClientConfig", ["management", "database", "async_timeout_secs", "poll_interval_ms",
    "default_worker_threads", "hypervisor"]⟩

/-- Decodes settings. -/
def ofJson (surplus : Json.Surplus) : Json → Json.Decoded Settings :=
  let default : Settings := {}
  shape.decode surplus
    (Settings.mk <$> .withDefault "management" default.management
        (ManagementSettings.ofJson surplus)
      <*> .optional "database" (DatabaseSettings.ofJson surplus)
      <*> .withDefault "async_timeout_secs" default.asyncTimeoutSecs
        (Json.decodeUnsigned "u64" wordLimit)
      <*> .withDefault "poll_interval_ms" default.pollIntervalMs
        (Json.decodeUnsigned "u64" wordLimit)
      <*> .withDefault "default_worker_threads" default.defaultWorkers
        (Json.decodeUnsigned "usize" wordLimit)
      <*> .optional "hypervisor" Json.decodeText)

/-- Encodes settings. -/
def toJson (settings : Settings) : Json :=
  Json.object
    [("management", settings.management.toJson),
      ("database", match settings.database with
        | some database => database.toJson
        | none => .null),
      ("async_timeout_secs", Json.nat settings.asyncTimeoutSecs),
      ("poll_interval_ms", Json.nat settings.pollIntervalMs),
      ("default_worker_threads", Json.nat settings.defaultWorkers),
      ("hypervisor", Json.optional settings.hypervisor)]

theorem ofJson_obj_nil (surplus : Json.Surplus) : ofJson surplus (.obj []) = .ok {} := by
  cases surplus <;> rfl

end Settings

end ControlPlane
