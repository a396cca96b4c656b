import ControlPlane.Json.Basic

/-!
# TOML values and tables

The values of a settings document. A table remembers how it came about, because that decides
whether it may be extended: by a header of its own, by a longer header, by a dotted key, or as an
inline table, which is closed at once.

Three operations build a document: `setDotted` puts a value under a (dotted) key of the current
table, `openTable` and `appendTable` change the table that a header names. Each refuses what
would define something twice.

Main statements: a key that is there is never set again (`setDotted_of_has`), and a key that is
not there is set (`setDotted_of_not_has`).
-/
namespace ControlPlane

namespace Toml

/-- How a table came about. -/
inductive Origin where
  | header
  | implied
  | dotted
  | inline
  deriving DecidableEq, Repr

end Toml

/-- A value of a settings document. -/
inductive Toml where
  | text (s : String)
  | integer (i : Int)
  /-- A number with a fraction or an exponent; none if it is infinite or undefined. -/
  | real (x : Option Number.Binary64)
  | truth (b : Bool)
  | moment (written : String)
  | list (items : List Toml)
  | table (origin : Toml.Origin) (entries : List (String × Toml))
  /-- The tables of repeated `[[…]]` headers, the latest first. -/
  | tables (latestFirst : List (List (String × Toml)))
  deriving Repr

namespace Toml

/-- The entries of a table. -/
abbrev Entries := Dictionary Toml

/-- Puts a value under a key path of a table. The tables on the way are made as needed, and must
not have been defined otherwise. -/
def setDotted (value : Toml) : List String → Entries → Option Entries
  | [], _ => none
  | [key], entries =>
    if Dictionary.has key entries then none else some (Dictionary.insert key value entries)
  | key :: next :: rest, entries =>
    match Dictionary.find? key entries with
    | none => do
      let inner ← setDotted value (next :: rest) []
      pure (Dictionary.insert key (.table .dotted inner) entries)
    | some (.table .dotted inner) => do
      let inner ← setDotted value (next :: rest) inner
      pure (Dictionary.insert key (.table .dotted inner) entries)
    | some (.table .implied inner) =>
      if rest.isEmpty then none
      else do
        let inner ← setDotted value (next :: rest) inner
        pure (Dictionary.insert key (.table .implied inner) entries)
    | some (.tables (latest :: older)) =>
      if rest.isEmpty then none
      else do
        let latest ← setDotted value (next :: rest) latest
        pure (Dictionary.insert key (.tables (latest :: older)) entries)
    | some _ => none

/-- Changes what stands under the last key of a header. The tables on the way are made as
needed; among repeated tables the latest is meant. -/
def alter (change : Option Toml → Option Toml) : List String → Entries → Option Entries
  | [], _ => none
  | [key], entries =>
    (change (Dictionary.find? key entries)).map fun value =>
      Dictionary.insert key value entries
  | key :: next :: rest, entries =>
    match Dictionary.find? key entries with
    | none => do
      let inner ← alter change (next :: rest) []
      pure (Dictionary.insert key (.table .implied inner) entries)
    | some (.table .inline _) => none
    | some (.table origin inner) => do
      let inner ← alter change (next :: rest) inner
      pure (Dictionary.insert key (.table origin inner) entries)
    | some (.tables (latest :: older)) => do
      let latest ← alter change (next :: rest) latest
      pure (Dictionary.insert key (.tables (latest :: older)) entries)
    | some _ => none

/-- Opens the table of a header: a new one, or one that longer headers have implied. -/
def openTable (path : List String) (fill : Entries → Option Entries) (root : Entries) :
    Option Entries :=
  alter (fun
    | none => (fill []).map (.table .header)
    | some (.table .implied entries) => (fill entries).map (.table .header)
    | some _ => none) path root

/-- Appends a table to the repeated tables of a header. -/
def appendTable (path : List String) (fill : Entries → Option Entries) (root : Entries) :
    Option Entries :=
  alter (fun
    | none => (fill []).map fun entries => .tables [entries]
    | some (.tables older) => (fill []).map fun entries => .tables (entries :: older)
    | some _ => none) path root

/-! ## As a dynamic value -/

/-- The name under which a moment shows its text. -/
def momentKey : String := "$__toml_private_datetime"

mutual

/-- The value as settings are decoded from it. A number that is infinite or undefined stands as
a zero with a fraction, since no setting is a fraction. -/
def toJson : Toml → Json
  | .text s => .str s
  | .integer i => Json.int i
  | .real x => .num (.real (x.getD (Number.Binary64.zero false)))
  | .truth b => .bool b
  | .moment written => .obj [(momentKey, .str written)]
  | .list items => .arr (itemsToJson items)
  | .table _ entries => .obj (entriesToJson entries)
  | .tables latestFirst => .arr (tablesToJson latestFirst).reverse

/-- The items of a list. -/
def itemsToJson : List Toml → List Json
  | [] => []
  | item :: rest => item.toJson :: itemsToJson rest

/-- The entries of a table. -/
def entriesToJson : List (String × Toml) → List (String × Json)
  | [] => []
  | (key, value) :: rest => (key, value.toJson) :: entriesToJson rest

/-- The tables of a repeated header. -/
def tablesToJson : List (List (String × Toml)) → List Json
  | [] => []
  | entries :: rest => .obj (entriesToJson entries) :: tablesToJson rest

end

/-! ## Keys are set once -/

theorem setDotted_of_has {key : String} {entries : Entries} (value : Toml)
    (h : Dictionary.has key entries = true) : setDotted value [key] entries = none := by
  simp [setDotted, h]

theorem setDotted_of_not_has {key : String} {entries : Entries} (value : Toml)
    (h : Dictionary.has key entries = false) :
    setDotted value [key] entries = some (Dictionary.insert key value entries) := by
  simp [setDotted, h]

end Toml

end ControlPlane
