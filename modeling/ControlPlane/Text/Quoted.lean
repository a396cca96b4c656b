import ControlPlane.Text.Unprintable

/-!
# Quoted text

How a text is shown inside a message: between double quotes, with a backslash in front of quotes
and backslashes, the usual letters for tab, line feed, carriage return and NUL, and the code
point in braces for every other character that cannot be seen (`\u{1}`, `\u{200b}`).

Main statement: `quoted_length_ge` — quoting only adds characters, two of them for the quotes.
-/
namespace ControlPlane.Text

/-- The digits of a number in lower-case hexadecimal, without leading zeros. -/
def hexDigits (n : Nat) : List Char :=
  Nat.toDigits 16 n

/-- Whether a character is shown by its number. -/
def isUnprintable (c : Char) : Bool :=
  if c.toNat < 0x80 then decide (c.toNat < 0x20) || c.toNat == 0x7F
  else unprintableBeyondAscii.contains c

/-- A character as it stands between the quotes. -/
def escapeChar (c : Char) : List Char :=
  match c with
  | '"' => ['\\', '"']
  | '\\' => ['\\', '\\']
  | '\t' => ['\\', 't']
  | '\n' => ['\\', 'n']
  | '\r' => ['\\', 'r']
  | '\x00' => ['\\', '0']
  | _ => if isUnprintable c then ['\\', 'u', '\x7b'] ++ hexDigits c.toNat ++ ['\x7d'] else [c]

/-- A text between double quotes. -/
def quoted (s : String) : String :=
  String.ofList (['"'] ++ s.toList.flatMap escapeChar ++ ['"'])

/-! ## Length -/

theorem escapeChar_ne_nil (c : Char) : escapeChar c ≠ [] := by
  unfold escapeChar
  split <;> simp
  split <;> simp

theorem length_le_length_flatMap_escapeChar (cs : List Char) :
    cs.length ≤ (cs.flatMap escapeChar).length := by
  induction cs with
  | nil => simp
  | cons c rest ih =>
    have : 0 < (escapeChar c).length := List.length_pos_iff.2 (escapeChar_ne_nil c)
    simp only [List.flatMap_cons, List.length_append, List.length_cons]
    omega

theorem quoted_length_ge (s : String) : s.length + 2 ≤ (quoted s).length := by
  have h := length_le_length_flatMap_escapeChar s.toList
  simp only [quoted, String.length_ofList, List.length_append, List.length_cons, List.length_nil]
  simp only [String.length_toList] at h
  omega

end ControlPlane.Text
