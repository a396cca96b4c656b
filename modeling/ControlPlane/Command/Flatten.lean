import ControlPlane.Json.Printer

/-!
# Flattening records into parameters

A command with structure is sent as flat parameters. A scalar member is one parameter, a list is
the comma-joined text of its scalars, and the scalars of a nested object become parameters
`name[0].key`. Nulls, and everything nested deeper, are dropped.

Main statement: `flatten_eq_none_iff` — objects, and nothing else, have parameters.
-/
namespace ControlPlane.Command

/-- The text of a string, a truth value or a number. -/
def scalar? : Json → Option String
  | .str s => some s
  | .bool b => some (if b then "true" else "false")
  | .num n => some n.text
  | _ => none

/-- The name of the parameter for a key of a nested object. -/
def nestedName (name key : String) : String :=
  name ++ "[0]." ++ key

/-- The parameters of one member. -/
def flattenMember (name : String) : Json → List (String × String)
  | .obj members =>
    members.filterMap fun (key, value) => (scalar? value).map (nestedName name key, ·)
  | .arr items =>
    match items.filterMap scalar? with
    | [] => []
    | texts => [(name, ",".intercalate texts)]
  | value =>
    match scalar? value with
    | some text => [(name, text)]
    | none => []

/-- The parameters of an object. -/
def flatten? : Json → Option (List (String × String))
  | .obj members => some (members.flatMap fun (name, value) => flattenMember name value)
  | _ => none

theorem flatten_eq_none_iff (value : Json) : flatten? value = none ↔ value.isObject = false := by
  cases value <;> simp [flatten?, Json.isObject]

end ControlPlane.Command
