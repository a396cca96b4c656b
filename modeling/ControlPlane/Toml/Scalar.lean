import ControlPlane.Number.Extended
import ControlPlane.Number.Words
import ControlPlane.Time.Timestamp
import ControlPlane.Toml.Basic

/-!
# Numbers and moments in TOML

Integers may have a sign, underscores between digits, and a base of two, eight or sixteen; they
fill 64 bits. A number with a point or an exponent is the nearest double and must not be too
great for one. A moment is a date, a time of day, or both, with or without an offset, and has to
exist.

Main statement: `ungroup_of_digits` — digits without underscores are read as they stand.
-/
namespace ControlPlane.Toml

/-- What reads something off the front of a text. -/
abbrev Reader (α : Type) := List Char → Option (α × List Char)

/-! ## Digits -/

/-- Whether underscores stand between digits only. -/
def isGrouped : List Char → Bool
  | [] => true
  | ['_'] => false
  | '_' :: '_' :: _ => false
  | _ :: rest => isGrouped rest

/-- The digits of a run in which single underscores may stand between digits. -/
def ungroup (cs : List Char) : Option (List Char) :=
  if cs.head? = some '_' || !isGrouped cs then none else some (cs.filter (· != '_'))

/-- The longest run of characters that are underscores or pass a test. -/
def spanGrouped (p : Char → Bool) (cs : List Char) : List Char × List Char :=
  cs.span fun c => c == '_' || p c

/-- A sign, and the rest. -/
def readSign : List Char → Option Bool × List Char
  | '-' :: rest => (some true, rest)
  | '+' :: rest => (some false, rest)
  | cs => (none, cs)

/-- The base after a leading zero. -/
def base? : Char → Option Nat
  | 'x' => some 16
  | 'o' => some 8
  | 'b' => some 2
  | _ => none

/-- Reads the digits of an integer of a base. -/
def readRadix (base : Nat) : Reader Toml := fun cs => do
  let (run, rest) := spanGrouped (fun c => (Number.radixDigit? base c).isSome) cs
  let digits ← ungroup run
  let n ← Number.ofRadixDigits? base digits
  if Number.isSigned64 n then some (.integer n, rest) else none

/-- Reads a fraction after its point. -/
def readFraction : Reader (List Char) := fun cs => do
  let (run, rest) := spanGrouped Char.isDigit cs
  let digits ← ungroup run
  if digits.isEmpty then none else some (digits, rest)

/-- Reads an exponent after its letter. -/
def readExponent : Reader Int := fun cs => do
  let (sign, body) := readSign cs
  let (digits, rest) ← readFraction body
  let n := Number.foldDigits 0 digits
  some (if sign = some true then -n else n, rest)

/-- The number with a whole part, a fraction and an exponent. One that is too great is refused,
one that is too far below zero stands for the negative infinity. -/
def realOf (negative : Bool) (whole fraction : List Char) (exponent : Int) : Option Toml :=
  match Number.Extended.ofDigits negative (whole ++ fraction) (exponent - fraction.length) with
  | .finite x => some (.real (some x))
  | .infinite true => some (.real none)
  | .infinite false | .undefined => none

/-- Reads a decimal number. -/
def readDecimal : Reader Toml := fun cs => do
  let (sign, body) := readSign cs
  let negative := sign = some true
  match body with
  | 'i' :: 'n' :: 'f' :: rest => some (.real none, rest)
  | 'n' :: 'a' :: 'n' :: rest => some (.real none, rest)
  | _ =>
    let (run, rest) := spanGrouped Char.isDigit body
    let digits ← ungroup run
    if digits.isEmpty || (decide (1 < run.length) && digits.head? == some '0') then none
    match rest with
    | '.' :: more => do
      let (fraction, after) ← readFraction more
      let (exponent, rest) ← match after with
        | 'e' :: more => readExponent more
        | 'E' :: more => readExponent more
        | _ => some (0, after)
      let x ← realOf negative digits fraction exponent
      some (x, rest)
    | 'e' :: more | 'E' :: more => do
      let (exponent, rest) ← readExponent more
      let x ← realOf negative digits [] exponent
      some (x, rest)
    | _ =>
      let n := Number.foldDigits 0 digits
      let i : Int := if negative then -n else n
      if Number.isSigned64 i then some (.integer i, rest) else none

/-- Reads a number. -/
def readNumber : Reader Toml := fun cs =>
  match cs with
  | '0' :: c :: rest =>
    match base? c with
    | some base => readRadix base rest
    | none => readDecimal cs
  | _ => readDecimal cs

/-! ## Moments -/

/-- Reads a number of exactly `width` digits, from `least` to `greatest`. -/
def readField (width least greatest : Nat) : Reader Nat := fun cs => do
  let digits := cs.take width
  if digits.length < width then none
  let n ← Number.ofDigits? digits
  if least ≤ n ∧ n ≤ greatest then some (n, cs.drop width) else none

/-- Reads one given character. -/
def expect (c : Char) : List Char → Option (List Char)
  | d :: rest => if c = d then some rest else none
  | [] => none

/-- Reads a date that exists. -/
def readDate (cs : List Char) : Option (List Char) := do
  let (year, rest) ← readField 4 0 9999 cs
  let rest ← expect '-' rest
  let (month, rest) ← readField 2 1 12 rest
  let rest ← expect '-' rest
  let (_, rest) ← readField 2 1 (Timestamp.daysInMonth year month) rest
  pure rest

/-- Reads a time of day, with a leap second at most. -/
def readTime (cs : List Char) : Option (List Char) := do
  let (_, rest) ← readField 2 0 23 cs
  let rest ← expect ':' rest
  let (_, rest) ← readField 2 0 59 rest
  let rest ← expect ':' rest
  let (_, rest) ← readField 2 0 60 rest
  match rest with
  | '.' :: more =>
    let (digits, after) := more.span Char.isDigit
    if digits.isEmpty then none else some after
  | _ => some rest

/-- Reads an offset from universal time, which may be absent. -/
def readOffset : List Char → Option (List Char)
  | 'Z' :: rest | 'z' :: rest => some rest
  | '+' :: rest | '-' :: rest => do
    let (_, rest) ← readField 2 0 23 rest
    let rest ← expect ':' rest
    let (_, rest) ← readField 2 0 59 rest
    pure rest
  | cs => some cs

/-- Whether a date or a time of day starts here. -/
def startsMoment : List Char → Bool
  | a :: b :: c :: d :: e :: _ =>
    a.isDigit && b.isDigit &&
      (c == ':' || (c.isDigit && d.isDigit && e == '-'))
  | _ => false

/-- Reads the time of day after a date, which a letter or a blank announces. -/
def readTimeAfterDate : List Char → Option (List Char)
  | 'T' :: rest | 't' :: rest => do
    let rest ← readTime rest
    readOffset rest
  | ' ' :: a :: b :: ':' :: rest =>
    if a.isDigit && b.isDigit then do
      let rest ← readTime (a :: b :: ':' :: rest)
      readOffset rest
    else some (' ' :: a :: b :: ':' :: rest)
  | cs => some cs

/-- Reads a moment. -/
def readMoment : Reader Toml := fun cs => do
  let rest ← match cs with
    | _ :: _ :: ':' :: _ => readTime cs
    | _ => do
      let rest ← readDate cs
      readTimeAfterDate rest
  some (.moment (String.ofList (cs.take (cs.length - rest.length))), rest)

/-! ## Runs without underscores -/

theorem isGrouped_of_digits {cs : List Char} (h : ∀ c ∈ cs, c ≠ '_') : isGrouped cs = true := by
  fun_induction isGrouped cs with
  | case1 => rfl
  | case2 => exact absurd rfl (h '_' (by simp))
  | case3 => exact absurd rfl (h '_' (by simp))
  | case4 c rest _ _ ih => exact ih fun d hd => h d (by simp [hd])

theorem ungroup_of_digits {cs : List Char} (h : ∀ c ∈ cs, c ≠ '_') : ungroup cs = some cs := by
  have hhead : ¬ cs.head? = some '_' := by
    intro hc
    exact h '_' (List.mem_of_mem_head? hc) rfl
  have hfilter : cs.filter (· != '_') = cs :=
    List.filter_eq_self.2 fun c hc => by simpa using h c hc
  simp [ungroup, hhead, isGrouped_of_digits h, hfilter]

end ControlPlane.Toml
