import ControlPlane.Settings.Override
import ControlPlane.Toml.Parser

/-!
# Settings documents

Settings are kept in a TOML document whose tables are the records of `Settings`. Whatever keeps
a document from being settings, in its form or in its values, is one kind of error.

Main statement: `ofDocument_empty` — the empty document stands for the defaults.
-/
namespace ControlPlane.Settings

/-- What is said of a text that is no TOML document. -/
def malformedDocument : String := "TOML parse error"

/-- The settings of a document. -/
def ofDocument (text : String) : Except SettingsError Settings :=
  match Toml.parse text with
  | none => .error (.unparsable malformedDocument)
  | some entries =>
    match Settings.ofJson .ignored (.obj (Toml.entriesToJson entries)) with
    | .ok settings => .ok settings
    | .error error => .error (.unparsable (malformedDocument ++ ": " ++ error.message))

theorem ofDocument_empty : ofDocument "" = .ok {} := by
  unfold ofDocument
  rw [Toml.parse_nil]
  rfl

end ControlPlane.Settings
