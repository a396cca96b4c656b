import ControlPlane.Json.Basic
import ControlPlane.Number.Words

/-!
# Reading JSON

One value with nothing but white space around it, as RFC 8259 has it: no leading zeros, no
comments, no unescaped controls, no lone surrogates, and at most 127 levels of nesting. Of
members with one name the last stays. A whole number that fits into 64 bits stays whole; every
other number becomes the double computed from its first nineteen or twenty digits and a power of
ten (`ofParts`), and a number too large for a double is refused.

Main statement: `parse_eq_none_of_blank` — text without any value is refused.
-/
namespace ControlPlane.Json

open Number (Binary64)

/-- Whether a character may stand between tokens. -/
def isSpace (c : Char) : Bool :=
  c == ' ' || c == '\n' || c == '\t' || c == '\r'

/-- What follows the white space. -/
def skipSpace (cs : List Char) : List Char :=
  cs.dropWhile isSpace

/-! ## Numbers -/

/-- The double nearest to a power of ten. -/
def powerOfTen (exponent : Nat) : Option Binary64 :=
  Binary64.ofDecimal? false 1 exponent

/-- Divides by powers of ten that are doubles themselves until the exponent is used up. -/
def divideDown (x : Binary64) (exponent : Nat) : Nat → Option Binary64
  | 0 => some x
  | fuel + 1 =>
    if exponent ≤ 308 then (powerOfTen exponent).bind x.div?
    else if x.isZero then some x
    else ((powerOfTen 308).bind x.div?).bind fun y => divideDown y (exponent - 308) fuel

/-- The double of `significand · 10 ^ exponent`: the significand as a double, multiplied or
divided by powers of ten, with a rounding at each step. -/
def ofParts (negative : Bool) (significand : Nat) (exponent : Int) : Option Binary64 := do
  let x ← Binary64.ofNat? significand
  let y ← match exponent with
    | .ofNat e =>
      if e ≤ 308 then (powerOfTen e).bind x.mul?
      else if x.isZero then some x
      else none
    | .negSucc e => divideDown x (e + 1) 4
  pure { y with negative }

/-- The largest significand that is collected digit by digit. -/
def significandLimit : Nat := Number.greatest64

/-- Collects digits into a significand while it stays within the limit; counts the digits taken
and the digits that were left out. -/
def collect (significand : Nat) : List Char → Nat × Nat × Nat
  | [] => (significand, 0, 0)
  | c :: rest =>
    let next := 10 * significand + Number.digitValue c
    if next ≤ significandLimit then
      let (s, taken, dropped) := collect next rest
      (s, taken + 1, dropped)
    else (significand, 0, rest.length + 1)

/-- The digits at the front of a text, and the rest. -/
def spanDigits (cs : List Char) : List Char × List Char :=
  (cs.takeWhile Char.isDigit, cs.dropWhile Char.isDigit)

/-- Splits the exponent off: its sign, its digits, and the rest. A text without an exponent has
none; an exponent without digits is refused. -/
def readExponent (cs : List Char) : Option (Option (Bool × List Char) × List Char) :=
  match cs with
  | e :: rest =>
    if e == 'e' || e == 'E' then
      let (negative, body) := match rest with
        | '+' :: more => (false, more)
        | '-' :: more => (true, more)
        | _ => (false, rest)
      let (ds, after) := spanDigits body
      if ds.isEmpty then none else some (some (negative, ds), after)
    else some (none, cs)
  | [] => some (none, cs)

/-- The largest exponent that is taken as written. -/
def exponentLimit : Nat := 0x7FFFFFFF

/-- The number with the given parts. -/
def assemble (negative : Bool) (whole : List Char) (fraction : Option (List Char))
    (exponent : Option (Bool × List Char)) : Option JsonNumber :=
  let (s₁, _, dropped₁) := collect 0 whole
  let (significand, taken, _) :=
    if dropped₁ = 0 then collect s₁ (fraction.getD []) else (s₁, 0, 0)
  match fraction, exponent, dropped₁ with
  | none, none, 0 =>
    if !negative then some (.whole significand)
    else if significand = 0 ∨ Number.greatestSigned64 + 1 < significand then
      (Binary64.ofNat? significand).map fun x => .real { x with negative := true }
    else some (.whole (-significand))
  | _, _, _ =>
    let start : Int := dropped₁ - taken
    match exponent with
    | none => (ofParts negative significand start).map .real
    | some (down, ds) =>
      let e := Number.foldDigits 0 ds
      if e > exponentLimit then
        if significand ≠ 0 ∧ !down then none else some (.real (Binary64.zero negative))
      else (ofParts negative significand (if down then start - e else start + e)).map .real

/-- Reads a number. -/
def readNumber (cs : List Char) : Option (JsonNumber × List Char) := do
  let (negative, body) := match cs with
    | '-' :: rest => (true, rest)
    | _ => (false, cs)
  let (whole, rest) := spanDigits body
  if whole.isEmpty || (decide (1 < whole.length) && whole.head? == some '0') then none
  let (fraction, rest) ← match rest with
    | '.' :: more =>
      let (ds, after) := spanDigits more
      if ds.isEmpty then none else some (some ds, after)
    | _ => some (none, rest)
  let (exponent, rest) ← readExponent rest
  let n ← assemble negative whole fraction exponent
  pure (n, rest)

/-! ## Strings -/

/-- The value of a hexadecimal digit of either case. -/
def hexValue? (c : Char) : Option Nat :=
  Number.radixDigit? 16 c

/-- The value of four hexadecimal digits, and the rest. -/
def readHex4 : List Char → Option (Nat × List Char)
  | a :: b :: c :: d :: rest => do
    let a ← hexValue? a
    let b ← hexValue? b
    let c ← hexValue? c
    let d ← hexValue? d
    pure (((a * 16 + b) * 16 + c) * 16 + d, rest)
  | _ => none

/-- The character of a `\u` escape, whose digits come next; two escapes make up a character
beyond the basic plane. -/
def readUnicodeEscape (cs : List Char) : Option (Char × List Char) := do
  let (high, rest) ← readHex4 cs
  if 0xDC00 ≤ high ∧ high ≤ 0xDFFF then none
  else if 0xD800 ≤ high ∧ high ≤ 0xDBFF then
    match rest with
    | '\\' :: 'u' :: more =>
      let (low, after) ← readHex4 more
      if 0xDC00 ≤ low ∧ low ≤ 0xDFFF then
        pure (Char.ofNat (0x10000 + (high - 0xD800) * 0x400 + (low - 0xDC00)), after)
      else none
    | _ => none
  else pure (Char.ofNat high, rest)

/-- The character of a one-letter escape. -/
def simpleEscape? : Char → Option Char
  | '"' => some '"'
  | '\\' => some '\\'
  | '/' => some '/'
  | 'b' => some '\x08'
  | 'f' => some '\x0c'
  | 'n' => some '\n'
  | 'r' => some '\r'
  | 't' => some '\t'
  | _ => none

/-- The characters of a string up to its closing quote, the last one first; `fuel` bounds their
number. -/
def readStringBody (done : List Char) : Nat → List Char → Option (List Char × List Char)
  | 0, _ => none
  | fuel + 1, cs =>
    match cs with
    | [] => none
    | '"' :: rest => some (done, rest)
    | '\\' :: 'u' :: rest => do
      let (c, after) ← readUnicodeEscape rest
      readStringBody (c :: done) fuel after
    | '\\' :: e :: rest => do
      let c ← simpleEscape? e
      readStringBody (c :: done) fuel rest
    | c :: rest =>
      if c.toNat < 0x20 || c == '\\' then none else readStringBody (c :: done) fuel rest

/-- Reads a string after its opening quote. -/
def readString (cs : List Char) : Option (String × List Char) :=
  (readStringBody [] (cs.length + 1) cs).map fun (reversed, rest) =>
    (String.ofList reversed.reverse, rest)

/-! ## Values -/

/-- What reads one value off the front of a text. -/
abbrev Reader := List Char → Option (Json × List Char)

/-- The items of an array after the first, up to the closing bracket. -/
def readItems (value : Reader) (done : List Json) : Nat → List Char → Option (List Json × List Char)
  | 0, _ => none
  | fuel + 1, cs =>
    match skipSpace cs with
    | ']' :: rest => some (done.reverse, rest)
    | ',' :: rest => do
      let (item, after) ← value rest
      readItems value (item :: done) fuel after
    | _ => none

/-- Reads an array after its opening bracket. -/
def readArray (value : Reader) (cs : List Char) : Option (Json × List Char) :=
  match skipSpace cs with
  | ']' :: rest => some (.arr [], rest)
  | _ => do
    let (first, after) ← value cs
    let (items, rest) ← readItems value [first] (after.length + 1) after
    pure (.arr items, rest)

/-- Reads a name, a colon and a value. -/
def readMember (value : Reader) (cs : List Char) : Option ((String × Json) × List Char) :=
  match skipSpace cs with
  | '"' :: rest => do
    let (name, after) ← readString rest
    match skipSpace after with
    | ':' :: more =>
      let (item, rest) ← value more
      pure ((name, item), rest)
    | _ => none
  | _ => none

/-- The members of an object after the first, up to the closing brace. -/
def readMembers (value : Reader) (done : Dictionary Json) :
    Nat → List Char → Option (Dictionary Json × List Char)
  | 0, _ => none
  | fuel + 1, cs =>
    match skipSpace cs with
    | '\x7d' :: rest => some (done, rest)
    | ',' :: rest => do
      let (entry, after) ← readMember value rest
      readMembers value (Dictionary.insert entry.1 entry.2 done) fuel after
    | _ => none

/-- Reads an object after its opening brace. -/
def readObject (value : Reader) (cs : List Char) : Option (Json × List Char) :=
  match skipSpace cs with
  | '\x7d' :: rest => some (.obj [], rest)
  | _ => do
    let (entry, after) ← readMember value cs
    let (members, rest) ←
      readMembers value (Dictionary.insert entry.1 entry.2 []) (after.length + 1) after
    pure (.obj members, rest)

/-- Reads a value; `depth` bounds how deep it may be nested. -/
def readValue : Nat → Reader
  | depth, cs =>
    match skipSpace cs with
    | 'n' :: 'u' :: 'l' :: 'l' :: rest => some (.null, rest)
    | 't' :: 'r' :: 'u' :: 'e' :: rest => some (.bool true, rest)
    | 'f' :: 'a' :: 'l' :: 's' :: 'e' :: rest => some (.bool false, rest)
    | '"' :: rest => (readString rest).map fun (s, after) => (.str s, after)
    | '[' :: rest =>
      match depth with
      | 0 => none
      | inner + 1 => readArray (readValue inner) rest
    | '\x7b' :: rest =>
      match depth with
      | 0 => none
      | inner + 1 => readObject (readValue inner) rest
    | other => (readNumber other).map fun (n, after) => (.num n, after)

/-- The deepest nesting that is read. -/
def depthLimit : Nat := 127

/-- Reads a whole text as one value. -/
def parse (text : String) : Option Json :=
  match readValue depthLimit text.toList with
  | some (value, rest) => if (skipSpace rest).isEmpty then some value else none
  | none => none

/-! ## Texts without a value -/

theorem parse_eq_none_of_blank {text : String} (h : skipSpace text.toList = []) :
    parse text = none := by
  unfold parse depthLimit readValue
  simp [h, readNumber, spanDigits]

end ControlPlane.Json
