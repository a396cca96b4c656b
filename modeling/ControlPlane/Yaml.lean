import ControlPlane.Json.Printer
import ControlPlane.Number.Extended
import ControlPlane.Url.Percent

/-!
# Writing YAML

Documents in block style, indented by two blanks; a list that is the value of a key stays at the
key's column. A text is written plainly where nothing else could be read from it, otherwise
between single quotes, between double quotes if it holds what cannot be printed, and as a block of
its lines if it has several. What would be read as a number, a truth value or nothing is not
written plainly; words such as `yes` are texts.

Main statements: plain text has no line break (`isPlain_of_break`), digits after a leading zero
are not written plainly (`isAmbiguous_of_leadingZero`), and the quotes inside a single-quoted text
are doubled (`single_quote`).
-/
namespace ControlPlane.Yaml

/-! ## Characters -/

/-- Whether a character ends a line. -/
def isBreak (c : Char) : Bool :=
  c == '\n' || c == '\r' || c == '\x85' || c == '\u2028' || c == '\u2029'

/-- Whether a character separates words or lines; so does the end of the text. -/
def isSeparator (c : Char) : Bool :=
  c == ' ' || c == '\t' || c == '\x00' || isBreak c

/-- Whether the text at hand ends or goes on with a separator. -/
def startsApart : List Char → Bool
  | [] => true
  | c :: _ => isSeparator c

/-- Whether a character may stand outside double quotes. -/
def isPrintable (c : Char) : Bool :=
  let n := c.toNat
  n == 0x0A || (decide (0x20 ≤ n) && decide (n ≤ 0x7E)) ||
    (decide (0xA0 ≤ n) && n != 0xFEFF && n != 0xFFFE && n != 0xFFFF)

/-- Characters that mean something at the start of a text. -/
def isIndicator (c : Char) : Bool :=
  ['#', ',', '[', ']', '\x7b', '\x7d', '&', '*', '!', '|', '>', '\'', '"', '%', '@',
    '\x60'].contains c

/-- Whether a text could be read as something else from one of its inner characters on. -/
def hasInnerIndicator (before : Char) : List Char → Bool
  | [] => false
  | c :: rest =>
    (c == ':' && startsApart rest) || (c == '#' && isSeparator before) ||
      hasInnerIndicator c rest

/-- Whether a text could be read as something else than a text. -/
def hasIndicator : List Char → Bool
  | [] => false
  | c :: rest =>
    isIndicator c || ((c == '?' || c == ':' || c == '-') && startsApart rest) ||
      (c :: rest).take 3 == ['-', '-', '-'] || (c :: rest).take 3 == ['.', '.', '.'] ||
      hasInnerIndicator c rest

/-- Whether a blank stands beside a line break, given the character before. -/
def hasPair (first second : Char → Bool) : List Char → Bool
  | a :: b :: rest => (first a && second b) || hasPair first second (b :: rest)
  | _ => false

/-- Whether a character is the blank. -/
def isBlank (c : Char) : Bool := c == ' '

/-! ## Styles -/

/-- How a text is written. -/
inductive Style where
  | plain
  | single
  | double
  | block
  deriving DecidableEq, Repr

/-- Words that stand for truth values or for nothing. -/
def reservedWords : List String :=
  ["", "~", "null", "Null", "NULL", "true", "True", "TRUE", "false", "False", "FALSE"]

/-- Words that stand for numbers without digits. -/
def numberWords : List String :=
  [".inf", ".Inf", ".INF", "+.inf", "+.Inf", "+.INF", "-.inf", "-.Inf", "-.INF", ".nan", ".NaN",
    ".NAN"]

/-- The base that a letter after a zero announces. -/
def base? : Char → Option Nat
  | 'x' => some 16
  | 'o' => some 8
  | 'b' => some 2
  | _ => none

/-- Whether digits in some base, announced by a zero and a letter, are a number up to a bound. -/
def isRadixNumber (bound : Nat) : List Char → Bool
  | '0' :: letter :: digits =>
    match (base? letter).bind fun base => Number.ofRadixDigits? base digits with
    | some n => decide (n ≤ bound)
    | none => false
  | _ => false

/-- Whether a text is an integer in another base than ten, of 128 bits with its sign. -/
def isRadixInteger : List Char → Bool
  | '-' :: cs => isRadixNumber (Nat.pow 2 127) cs
  | '+' :: cs => isRadixNumber (Nat.pow 2 128 - 1) cs
  | cs => isRadixNumber (Nat.pow 2 128 - 1) cs

/-- Whether a text has digits only, a zero in front of others, after a sign at most. -/
def hasLeadingZero (cs : List Char) : Bool :=
  match (Number.Extended.readSign cs).2 with
  | '0' :: digits => !digits.isEmpty && digits.all Char.isDigit
  | _ => false

/-- Whether a text is a number that is not infinite. -/
def isFiniteNumber (s : String) : Bool :=
  match Number.Extended.read s with
  | some (.finite _) => true
  | _ => false

/-- Whether a text could be taken for a number, a truth value or nothing. -/
def isAmbiguous (s : String) : Bool :=
  reservedWords.contains s || numberWords.contains s || isRadixInteger s.toList ||
    hasLeadingZero s.toList || isFiniteNumber s

/-- Whether a text has a character or an order of blanks and breaks that only double quotes can
hold. -/
def needsEscapes (cs : List Char) : Bool :=
  !cs.all isPrintable || hasPair isBlank isBreak cs

/-- Whether a text may stand without quotes. -/
def isPlain (cs : List Char) : Bool :=
  !(hasIndicator cs || needsEscapes cs || cs.any isBreak ||
    cs.head? == some ' ' || cs.getLast? == some ' ')

/-- The style of a text. -/
def styleOf (s : String) : Style :=
  let cs := s.toList
  if cs.contains '\n' then
    if needsEscapes cs || cs.getLast? == some ' ' then .double else .block
  else if isAmbiguous s || !isPlain cs then
    if needsEscapes cs || hasPair isBreak isBlank cs then .double else .single
  else .plain

/-! ## Texts -/

/-- A hexadecimal number of fixed width in upper case. -/
def hex (width n : Nat) : List Char :=
  let digits := (Nat.toDigits 16 n).map Char.toUpper
  List.replicate (width - digits.length) '0' ++ digits

/-- The letter of an escape. -/
def escapeLetter? (c : Char) : Option Char :=
  match c with
  | '\x00' => some '0'
  | '\x07' => some 'a'
  | '\x08' => some 'b'
  | '\t' => some 't'
  | '\n' => some 'n'
  | '\x0b' => some 'v'
  | '\x0c' => some 'f'
  | '\r' => some 'r'
  | '\x1b' => some 'e'
  | '"' => some '"'
  | '\\' => some '\\'
  | '\x85' => some 'N'
  | '\xa0' => some '_'
  | '\u2028' => some 'L'
  | '\u2029' => some 'P'
  | _ => none

/-- A character between double quotes. -/
def escapeChar (c : Char) : List Char :=
  if isPrintable c && !isBreak c && c != '"' && c != '\\' then [c]
  else
    match escapeLetter? c with
    | some letter => ['\\', letter]
    | none =>
      let n := c.toNat
      if n ≤ 0xFF then '\\' :: 'x' :: hex 2 n else '\\' :: 'u' :: hex 4 n

/-- A character between single quotes. -/
def doubleQuote (c : Char) : List Char :=
  if c == '\'' then ['\'', '\''] else [c]

/-- The header of a block: how far it is indented if its start does not show it, and whether its
last line breaks are kept. -/
def blockHeader (cs : List Char) : List Char :=
  let indentation := match cs with
    | c :: _ => if c == ' ' || isBreak c then ['2'] else []
    | [] => []
  let ending := match cs.reverse with
    | last :: before =>
      if !isBreak last then ['-']
      else
        match before with
        | [] => ['+']
        | previous :: _ => if isBreak previous then ['+'] else []
    | [] => ['-']
  '|' :: indentation ++ ending

/-- The lines of a text; a line break at the end starts no line. -/
def linesOf (current : List Char) : List Char → List (List Char)
  | [] => if current.isEmpty then [] else [current.reverse]
  | c :: rest =>
    if c == '\n' then current.reverse :: linesOf [] rest else linesOf (c :: current) rest

/-- The lines of a text in its style; all but the first are to be indented. -/
def textLines (s : String) : List (List Char) :=
  let cs := s.toList
  match styleOf s with
  | .plain => [cs]
  | .single => [['\''] ++ cs.flatMap doubleQuote ++ ['\'']]
  | .double => [['"'] ++ cs.flatMap escapeChar ++ ['"']]
  | .block => blockHeader cs :: linesOf [] cs

/-! ## Values -/

/-- Doubles are positional up to sixteen digits before the point and five zeros after it. -/
def numberStyle : Number.FloatStyle := ⟨-5, 15, false⟩

/-- The text of a number. -/
def numberText : JsonNumber → String
  | .whole i => Number.intText i
  | .real x => numberStyle.write x

/-- Text one level deeper: two blanks are put before what follows a line break, and before the
first character if it starts a line. -/
def deepen (startsLine : Bool) : List Char → List Char
  | [] => []
  | c :: rest =>
    if isBreak c then c :: deepen true rest
    else if startsLine then ' ' :: ' ' :: c :: deepen false rest
    else c :: deepen false rest

/-- A line one level deeper; empty lines stay empty. -/
def indent (line : List Char) : List Char :=
  deepen true line

/-- Lines after a mark, the later ones one level deeper. -/
def hang (mark : List Char) : List (List Char) → List (List Char)
  | [] => [mark]
  | first :: rest => (mark ++ deepen false first) :: rest.map indent

/-- The greatest length of a key before a colon. -/
def keyLimit : Nat := 128

/-- Whether a key may stand before a colon on one line. -/
def isSimpleKey (key : String) : Bool :=
  !key.toList.any isBreak && decide ((Url.utf8 key.toList).length ≤ keyLimit)

/-- How a value continues the line of its key. -/
inductive Placement where
  | sameLine
  | nextLine
  | deeper

/-- Where a value stands after a key. -/
def placement : Json → Placement
  | .arr (_ :: _) => .nextLine
  | .obj (_ :: _) => .deeper
  | _ => .sameLine

/-- The lines of a key and its value. -/
def entryLines (key : String) (value : Json) (valueLines : List (List Char)) :
    List (List Char) :=
  if isSimpleKey key then
    let mark := (textLines key).headD [] ++ [':']
    match placement value with
    | .sameLine => hang (mark ++ [' ']) valueLines
    | .nextLine => mark :: valueLines
    | .deeper => mark :: valueLines.map indent
  else hang ['?', ' '] (textLines key) ++ hang [':', ' '] valueLines

mutual

/-- The lines of a value. -/
def lines : Json → List (List Char)
  | .null => ["null".toList]
  | .bool true => ["true".toList]
  | .bool false => ["false".toList]
  | .num n => [(numberText n).toList]
  | .str s => textLines s
  | .arr [] => [['[', ']']]
  | .arr items => itemsLines items
  | .obj [] => [['\x7b', '\x7d']]
  | .obj members => membersLines members

/-- The lines of the items of a list. -/
def itemsLines : List Json → List (List Char)
  | [] => []
  | item :: rest => hang ['-', ' '] (lines item) ++ itemsLines rest

/-- The lines of the members of an object. -/
def membersLines : List (String × Json) → List (List Char)
  | [] => []
  | (key, value) :: rest => entryLines key value (lines value) ++ membersLines rest

end

/-- The lines of a document; those of a text hang below its first. -/
def documentLines : Json → List (List Char)
  | .str s => hang [] (textLines s)
  | value => lines value

/-- A document. -/
def write (value : Json) : String :=
  String.ofList ((documentLines value).flatMap (· ++ ['\n']))

/-! ## Styles of texts -/

theorem isPlain_of_break {cs : List Char} {c : Char} (hc : c ∈ cs) (h : isBreak c = true) :
    isPlain cs = false := by
  have : cs.any isBreak = true := List.any_eq_true.2 ⟨c, hc, h⟩
  simp [isPlain, this]

theorem isAmbiguous_of_leadingZero {s : String} (h : hasLeadingZero s.toList = true) :
    isAmbiguous s = true := by
  simp [isAmbiguous, h]

theorem single_quote (cs : List Char) :
    (cs.flatMap doubleQuote).count '\'' = 2 * cs.count '\'' := by
  induction cs with
  | nil => rfl
  | cons c rest ih =>
    by_cases h : c = '\''
    · subst h; simp [doubleQuote, ih]; omega
    · simp [doubleQuote, h, ih]

end ControlPlane.Yaml
