import ControlPlane.CommandLine.Failure
import ControlPlane.CommandLine.FileTree
import ControlPlane.Settings.Document

/-!
# Finding the settings

The settings document is the one that is named, or the first that exists at the usual places;
without any the defaults hold. Variables override the document, and the result has to be valid.

Main statement: `load_of_absent` — without a document and without variables the defaults hold.
-/
namespace ControlPlane.CommandLine

/-- What the program finds around it. -/
structure Surroundings where
  environment : Variables
  files : String → FileState

namespace Surroundings

/-- Reads the settings document at a path. -/
def readSettings (around : Surroundings) (path : String) : Except SettingsError Settings :=
  match around.files path with
  | .absent reason => .error (.unreadable path reason.message)
  | .unreadable reason => .error (.unreadable path reason)
  | .text content => Settings.ofDocument content

/-- Where a document is looked for, in this order. -/
def usualPaths (around : Surroundings) : List String :=
  (around.environment "STRATUS_CONFIG").toList ++ ["./stratus.toml", "/etc/stratus/config.toml"]

/-- The first of the usual places where something stands. -/
def findDocument (around : Surroundings) : Option String :=
  around.usualPaths.find? fun path => (around.files path).isPresent

/-- The failure of an error in the settings. -/
def failureOf (error : SettingsError) : Failure := .plain error.message

/-- The settings of a document that is named. -/
def loadNamed (around : Surroundings) (path : String) : Except Failure Settings := do
  match around.readSettings path with
  | .error error =>
    throw ((failureOf error).withContext ("Failed to load config from " ++ path))
  | .ok settings =>
    let settings := settings.override around.environment
    match settings.validate with
    | .error error => throw ((failureOf error).withContext "Invalid configuration")
    | .ok () => return settings

/-- The settings of a document at a usual place, or without one. -/
def loadFound (around : Surroundings) : Except SettingsError Settings := do
  let document ← match around.findDocument with
    | some path => around.readSettings path
    | none => pure {}
  let settings := document.override around.environment
  settings.validate
  return settings

/-- The settings to work with. -/
def load (around : Surroundings) : Option String → Except Failure Settings
  | some path => around.loadNamed path
  | none =>
    match around.loadFound with
    | .ok settings => .ok settings
    | .error error => .error ((failureOf error).withContext "Failed to load config")

theorem load_of_absent (reason : Absence) :
    load ⟨fun _ => none, fun _ => .absent reason⟩ none = .ok {} := by
  rfl

end Surroundings

end ControlPlane.CommandLine
