import ControlPlane.Toml.Scalar

/-!
# Reading TOML

A settings document is a sequence of lines: assignments, headers of tables, comments. Text is
written in one of four kinds of string, lists and inline tables nest, and assignments between two
headers belong to the table of the first. Anything else, and anything defined twice, is refused.

Main statement: `parse_nil` — the empty document is the empty table.
-/
namespace ControlPlane.Toml

/-! ## Blanks and comments -/

/-- Whether a character is a blank within a line. -/
def isBlank (c : Char) : Bool :=
  c == ' ' || c == '\t'

/-- The text after its leading blanks. -/
def skipBlanks (cs : List Char) : List Char :=
  cs.dropWhile isBlank

/-- Whether a character may stand in a comment or a literal string. -/
def isPrintable (c : Char) : Bool :=
  c == '\t' || (decide (0x20 ≤ c.toNat) && c.toNat != 0x7F)

/-- The text after a comment, which may be absent. -/
def skipComment : List Char → List Char
  | '#' :: rest => rest.dropWhile isPrintable
  | cs => cs

/-- The text after one line break. -/
def readBreak : List Char → Option (List Char)
  | '\n' :: rest => some rest
  | '\r' :: '\n' :: rest => some rest
  | _ => none

/-- The text after blanks, comments and line breaks; `fuel` bounds the number of lines. -/
def skipLines : Nat → List Char → List Char
  | 0, cs => cs
  | fuel + 1, cs =>
    let rest := skipComment (skipBlanks cs)
    match readBreak rest with
    | some more => skipLines fuel more
    | none => rest

/-- The text after blanks, comments and line breaks. -/
def skipSpace (cs : List Char) : List Char :=
  skipLines (cs.length + 1) cs

/-! ## Strings -/

/-- The character of a one-letter escape. -/
def simpleEscape? : Char → Option Char
  | 'b' => some '\x08'
  | 't' => some '\t'
  | 'n' => some '\n'
  | 'f' => some '\x0c'
  | 'r' => some '\r'
  | '"' => some '"'
  | '\\' => some '\\'
  | _ => none

/-- Reads the character of an escape of `width` hexadecimal digits. -/
def readCodePoint (width : Nat) : Reader Char := fun cs => do
  let digits := cs.take width
  if digits.length < width then none
  let n ← Number.ofRadixDigits? 16 digits
  if h : n.isValidChar then some (Char.ofNatAux n h, cs.drop width) else none

/-- Reads an escape after its backslash. -/
def readEscape : Reader Char := fun cs =>
  match cs with
  | 'u' :: rest => readCodePoint 4 rest
  | 'U' :: rest => readCodePoint 8 rest
  | c :: rest => (simpleEscape? c).map fun d => (d, rest)
  | [] => none

/-- Reads a basic string of one line up to its closing quote; the characters read come last
first. -/
def readBasic (done : List Char) : Nat → Reader String
  | 0, _ => none
  | fuel + 1, cs =>
    match cs with
    | '"' :: rest => some (String.ofList done.reverse, rest)
    | '\\' :: rest => do
      let (c, after) ← readEscape rest
      readBasic (c :: done) fuel after
    | c :: rest => if isPrintable c then readBasic (c :: done) fuel rest else none
    | [] => none

/-- Reads a literal string of one line up to its closing quote. -/
def readLiteral : Reader String := fun cs =>
  match cs.span fun c => c != '\'' && isPrintable c with
  | (body, '\'' :: rest) => some (String.ofList body, rest)
  | _ => none

/-- The text without the line break right after an opening delimiter. -/
def trimBreak (cs : List Char) : List Char :=
  (readBreak cs).getD cs

/-- The text after the blanks and line breaks that a backslash at the end of a line joins; none
if the line does not end there. -/
def joinLines (cs : List Char) : Option (List Char) :=
  let isGap := fun c => isBlank c || c == '\n' || c == '\r'
  let skip := fun (fuel : Nat) (rest : List Char) =>
    fuel.repeat (fun rest => let more := skipBlanks rest; (readBreak more).getD more) rest
  match readBreak (skipBlanks cs) with
  | some rest => some (skip (rest.takeWhile isGap).length rest)
  | none => none

/-- The end of a string over several lines: up to two more quotes may stand before the closing
three. -/
def readClosing (quote : Char) (cs : List Char) : Option (Nat × List Char) :=
  let count := (cs.takeWhile (· == quote)).length
  if count < 3 then none
  else
    let extra := min (count - 3) 2
    some (extra, cs.drop (extra + 3))

/-- Reads a string over several lines, with escapes if `escapes` holds. -/
def readLong (quote : Char) (escapes : Bool) (done : List Char) : Nat → Reader String
  | 0, _ => none
  | fuel + 1, cs =>
    match readClosing quote cs with
    | some (extra, rest) => some (String.ofList (done.reverse ++ List.replicate extra quote), rest)
    | none =>
      match readBreak cs, cs with
      | some rest, _ => readLong quote escapes ('\n' :: done) fuel rest
      | none, '\\' :: rest =>
        if escapes then
          match joinLines rest with
          | some after => readLong quote escapes done fuel after
          | none => do
            let (c, after) ← readEscape rest
            readLong quote escapes (c :: done) fuel after
        else readLong quote escapes ('\\' :: done) fuel rest
      | none, c :: rest =>
        if isPrintable c then readLong quote escapes (c :: done) fuel rest else none
      | none, [] => none

/-- Reads a string of any kind. -/
def readString : Reader String := fun cs =>
  match cs with
  | '"' :: '"' :: '"' :: rest =>
    let body := trimBreak rest
    readLong '"' true [] (body.length + 1) body
  | '\'' :: '\'' :: '\'' :: rest =>
    let body := trimBreak rest
    readLong '\'' false [] (body.length + 1) body
  | '"' :: rest => readBasic [] (rest.length + 1) rest
  | '\'' :: rest => readLiteral rest
  | _ => none

/-! ## Keys -/

/-- Whether a character may stand in a key without quotes. -/
def isBare (c : Char) : Bool :=
  c.isAlphanum || c == '_' || c == '-'

/-- Reads one part of a key. -/
def readKeyPart : Reader String := fun cs =>
  match cs with
  | '"' :: rest => readBasic [] (rest.length + 1) rest
  | '\'' :: rest => readLiteral rest
  | _ =>
    let (bare, rest) := cs.span isBare
    if bare.isEmpty then none else some (String.ofList bare, rest)

/-- Reads the parts of a key, with blanks around the points between them. -/
def readKeyParts (done : List String) : Nat → Reader (List String)
  | 0, _ => none
  | fuel + 1, cs => do
    let (part, rest) ← readKeyPart (skipBlanks cs)
    match skipBlanks rest with
    | '.' :: more => readKeyParts (part :: done) fuel more
    | after => some ((part :: done).reverse, after)

/-- How deep values, tables and keys may be nested. -/
def depthLimit : Nat := 80

/-- Reads a key. -/
def readKey : Reader (List String) := fun cs =>
  readKeyParts [] (depthLimit - 1) cs

/-! ## Values -/

/-- The items of a list up to its closing bracket. -/
def readItems (value : Reader Toml) (done : List Toml) : Nat → Reader (List Toml)
  | 0, _ => none
  | fuel + 1, cs =>
    match skipSpace cs with
    | ']' :: rest => some (done.reverse, rest)
    | body => do
      let (item, rest) ← value body
      match skipSpace rest with
      | ',' :: more => readItems value (item :: done) fuel more
      | ']' :: more => some ((item :: done).reverse, more)
      | _ => none

/-- Reads a key, an equals sign and a value. -/
def readAssignment (value : Reader Toml) : Reader (List String × Toml) := fun cs => do
  let (key, rest) ← readKey cs
  match rest with
  | '=' :: more => do
    let (item, after) ← value (skipBlanks more)
    some ((key, item), after)
  | _ => none

/-- The assignments of an inline table up to its closing brace. -/
def readInline (value : Reader Toml) (entries : Entries) : Nat → Reader Entries
  | 0, _ => none
  | fuel + 1, cs => do
    let ((key, item), rest) ← readAssignment value (skipBlanks cs)
    let entries ← setDotted item key entries
    match skipBlanks rest with
    | ',' :: more => readInline value entries fuel more
    | '\x7d' :: more => some (entries, more)
    | _ => none

/-- Reads a value; `depth` bounds how deep it may be nested. -/
def readValue : Nat → Reader Toml
  | depth, cs =>
    match cs with
    | 't' :: 'r' :: 'u' :: 'e' :: rest => some (.truth true, rest)
    | 'f' :: 'a' :: 'l' :: 's' :: 'e' :: rest => some (.truth false, rest)
    | '"' :: _ | '\'' :: _ => (readString cs).map fun (s, rest) => (.text s, rest)
    | '[' :: rest =>
      match depth with
      | 0 => none
      | inner + 1 =>
        (readItems (readValue inner) [] (rest.length + 1) rest).map fun (items, after) =>
          (.list items, after)
    | '\x7b' :: rest =>
      match depth with
      | 0 => none
      | inner + 1 =>
        match skipBlanks rest with
        | '\x7d' :: after => some (.table .inline [], after)
        | body =>
          (readInline (readValue inner) [] (body.length + 1) body).map fun (entries, after) =>
            (.table .inline entries, after)
    | _ => if startsMoment cs then readMoment cs else readNumber cs

/-! ## Documents -/

/-- The text after the end of a line: blanks and a comment, then a line break or the end. -/
def readEnd (cs : List Char) : Option (List Char) :=
  match skipComment (skipBlanks cs) with
  | [] => some []
  | rest => readBreak rest

/-- One line with content. -/
inductive Line where
  | assignment (key : List String) (value : Toml)
  | header (path : List String)
  | repeatedHeader (path : List String)

/-- Reads a line with content up to its end. -/
def readLine : Reader Line := fun cs =>
  match cs with
  | '[' :: '[' :: rest => do
    let (path, after) ← readKey rest
    match after with
    | ']' :: ']' :: more => (readEnd more).map fun next => (.repeatedHeader path, next)
    | _ => none
  | '[' :: rest => do
    let (path, after) ← readKey rest
    match after with
    | ']' :: more => (readEnd more).map fun next => (.header path, next)
    | _ => none
  | _ => do
    let ((key, value), rest) ← readAssignment (readValue (depthLimit - 1)) cs
    (readEnd rest).map fun next => (.assignment key value, next)

/-- The lines with content of a document, in reverse. -/
def readLines (done : List Line) : Nat → List Char → Option (List Line)
  | 0, _ => none
  | fuel + 1, cs =>
    match skipSpace cs with
    | [] => some done
    | body => do
      let (line, rest) ← readLine body
      readLines (line :: done) fuel rest

/-- Which table the assignments before the next header belong to. -/
inductive Section where
  | root
  | table (path : List String)
  | repeated (path : List String)

/-- Puts the assignments of a section into the document. -/
def closeSection (current : Section) (assignments : List (List String × Toml))
    (document : Entries) : Option Entries :=
  let fill : Entries → Option Entries := fun entries =>
    assignments.foldlM (fun acc (key, value) => setDotted value key acc) entries
  match current with
  | .root => fill document
  | .table path => openTable path fill document
  | .repeated path => appendTable path fill document

/-- Builds a document from its lines; the assignments of the current section come last first. -/
def build (current : Section) (assignments : List (List String × Toml)) (document : Entries) :
    List Line → Option Entries
  | [] => closeSection current assignments.reverse document
  | .assignment key value :: rest => build current ((key, value) :: assignments) document rest
  | .header path :: rest => do
    let document ← closeSection current assignments.reverse document
    build (.table path) [] document rest
  | .repeatedHeader path :: rest => do
    let document ← closeSection current assignments.reverse document
    build (.repeated path) [] document rest

/-- The text without a byte order mark. -/
def withoutMark : List Char → List Char
  | '\ufeff' :: rest => rest
  | cs => cs

/-- Reads a document. -/
def parse (text : String) : Option Entries := do
  let cs := withoutMark text.toList
  let reversed ← readLines [] (cs.length + 1) cs
  build .root [] [] reversed.reverse

theorem parse_nil : parse "" = some [] := rfl

end ControlPlane.Toml
