import ControlPlane.ClientError
import ControlPlane.Command.Flatten

/-!
# Commands

A command is a name with flat parameters, and runs at once or as a job. Parameters may be added
one by one or as `name=value` texts, where the first equals sign separates; of several values for
one name the last counts. A command may also be written as a value, which is flattened.

Main statements: an added parameter is found under its name (`find?_param`), a text without an
equals sign is refused (`withPairs_error`), and so is a command that is written as anything but an
object (`paramsOf_eq_error_iff`).
-/
namespace ControlPlane

/-- A command for the control plane. -/
structure Command where
  name : String
  isAsync : Bool
  params : Dictionary String
  deriving DecidableEq, Repr, Inhabited

namespace Command

/-- A command without parameters that runs at once. -/
def named (name : String) : Command := ⟨name, false, []⟩

/-- The command as one that starts a job. -/
def asynchronous (command : Command) : Command :=
  { command with isAsync := true }

/-- The command with a parameter. -/
def param (command : Command) (name value : String) : Command :=
  { command with params := Dictionary.insert name value command.params }

/-- Splits a text at its first equals sign. -/
def splitPair (text : String) : Option (String × String) :=
  match Url.cutAt (· == '=') text.toList with
  | (name, some value) => some (String.ofList name, String.ofList value)
  | (_, none) => none

/-- The error of a text that is no pair. -/
def notAPair (text : String) : ClientError :=
  .invalidCommand ("expected name=value, got '" ++ text ++ "'")

/-- The command with the parameters of `name=value` texts. -/
def withPairs (command : Command) : List String → Except ClientError Command
  | [] => .ok command
  | text :: rest =>
    match splitPair text with
    | some (name, value) => (command.param name value).withPairs rest
    | none => .error (notAPair text)

/-- The error of a command that is written as anything but an object. -/
def notAnObject : ClientError :=
  .invalidCommand "command must serialize to an object"

/-- The parameters of a command that is written as a value. -/
def paramsOf (value : Json) : Except ClientError (List (String × String)) :=
  match flatten? value with
  | some params => .ok params
  | none => .error notAnObject

/-- The command that is written as a value, under its name. -/
def ofValue (name : String) (isAsync : Bool) (value : Json) : Except ClientError Command := do
  let params ← paramsOf value
  pure ⟨name, isAsync, Dictionary.ofList params⟩

/-- The wire form. -/
def shape : Json.Shape := ⟨"RawCommand", ["name", "is_async", "params"]⟩

/-- Decodes a command. -/
def ofJson : Json → Json.Decoded Command :=
  shape.decode .refused
    (Command.mk <$> .required "name" Json.decodeText <*> .required "is_async" Json.decodeBool
      <*> .required "params" (Json.decodeDictionary Json.decodeText))

/-- Encodes a command. -/
def toJson (command : Command) : Json :=
  Json.object
    [("name", .str command.name), ("is_async", .bool command.isAsync),
      ("params", .obj (command.params.map fun (name, value) => (name, .str value)))]

/-! ## Parameters -/

theorem find?_param (command : Command) (name value : String) :
    Dictionary.find? name (command.param name value).params = some value := by
  simp [param, Dictionary.find?_insert]

theorem withPairs_error {command : Command} {text : String} {rest : List String}
    (h : splitPair text = none) :
    command.withPairs (text :: rest) = .error (notAPair text) := by
  simp [withPairs, h]

theorem paramsOf_eq_error_iff (value : Json) :
    paramsOf value = .error notAnObject ↔ value.isObject = false := by
  rw [← flatten_eq_none_iff, paramsOf]
  cases flatten? value with
  | none => simp
  | some params => simp

end Command

end ControlPlane
