import ControlPlane.Json.Basic

/-!
# Writing JSON

Two layouts: `compact` without any blank, and `pretty` with one member or item per line, indented
by two blanks. Strings escape quotes, backslashes and the controls of ASCII and keep every other
character as it is.

Main statement: `escape_of_plain` — text without quotes, backslashes and controls is written as
it stands.
-/
namespace ControlPlane.Json

/-- A lower-case hexadecimal digit. -/
def hexDigit (n : Nat) : Char :=
  Nat.digitChar (n % 16)

/-- Whether a character has to be escaped inside a string. -/
def needsEscape (c : Char) : Bool :=
  decide (c.toNat < 0x20) || c == '"' || c == '\\'

/-- A character inside a string. -/
def escapeChar (c : Char) : List Char :=
  if needsEscape c then
    match c with
    | '"' => ['\\', '"']
    | '\\' => ['\\', '\\']
    | '\n' => ['\\', 'n']
    | '\r' => ['\\', 'r']
    | '\t' => ['\\', 't']
    | '\x08' => ['\\', 'b']
    | '\x0c' => ['\\', 'f']
    | _ => ['\\', 'u', '0', '0', hexDigit (c.toNat / 16), hexDigit c.toNat]
  else [c]

/-- The characters of a string between its quotes. -/
def escape (cs : List Char) : List Char :=
  cs.flatMap escapeChar

/-- A string literal. -/
def literal (s : String) : String :=
  String.ofList (['"'] ++ escape s.toList ++ ['"'])

/-- Texts between brackets, with commas between them. -/
def bracketed (opening closing : String) (parts : List String) : String :=
  opening ++ ",".intercalate parts ++ closing

mutual

/-- A value without any blank. -/
def compact : Json → String
  | .null => "null"
  | .bool true => "true"
  | .bool false => "false"
  | .num n => n.text
  | .str s => literal s
  | .arr items => bracketed "[" "]" (compactItems items)
  | .obj members => bracketed "\x7b" "\x7d" (compactMembers members)

/-- The items of an array. -/
def compactItems : List Json → List String
  | [] => []
  | item :: rest => compact item :: compactItems rest

/-- The members of an object. -/
def compactMembers : List (String × Json) → List String
  | [] => []
  | (name, value) :: rest => (literal name ++ ":" ++ compact value) :: compactMembers rest

end

/-- A line break and the indentation of a level. -/
def newline (level : Nat) : String :=
  String.ofList ('\n' :: List.replicate (2 * level) ' ')

/-- Texts on lines of their own between brackets; empty brackets stay together. -/
def spread (level : Nat) (opening closing : String) (parts : List String) : String :=
  if parts.isEmpty then opening ++ closing
  else
    opening ++ newline (level + 1) ++ ("," ++ newline (level + 1)).intercalate parts ++
      newline level ++ closing

mutual

/-- A value over several lines, nested `level` deep. -/
def prettyAt (level : Nat) : Json → String
  | .null => "null"
  | .bool true => "true"
  | .bool false => "false"
  | .num n => n.text
  | .str s => literal s
  | .arr items => spread level "[" "]" (prettyItems (level + 1) items)
  | .obj members => spread level "\x7b" "\x7d" (prettyMembers (level + 1) members)

/-- The items of an array. -/
def prettyItems (level : Nat) : List Json → List String
  | [] => []
  | item :: rest => prettyAt level item :: prettyItems level rest

/-- The members of an object. -/
def prettyMembers (level : Nat) : List (String × Json) → List String
  | [] => []
  | (name, value) :: rest =>
    (literal name ++ ": " ++ prettyAt level value) :: prettyMembers level rest

end

/-- A value over several lines. -/
def pretty (value : Json) : String :=
  prettyAt 0 value

/-! ## Escapes -/

theorem escape_of_plain {cs : List Char} (h : ∀ c ∈ cs, needsEscape c = false) :
    escape cs = cs := by
  induction cs with
  | nil => rfl
  | cons c rest ih =>
    have hc : needsEscape c = false := h c (by simp)
    have hrest := ih fun d hd => h d (by simp [hd])
    simp only [escape] at hrest ⊢
    simp [escapeChar, hc, hrest]

end ControlPlane.Json
