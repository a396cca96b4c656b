import ControlPlane.Number.Shortest
import ControlPlane.Time.Duration

/-!
# Extended numbers

Doubles with the infinities and the undefined number, as a person may write them: a sign, then
digits with a point and an exponent, or a word. A number that is too great is infinite.

Main statement: `read_nil` — nothing is no number.
-/
namespace ControlPlane.Number

/-- A double, an infinity, or no number at all. -/
inductive Extended where
  | finite (x : Binary64)
  | infinite (negative : Bool)
  | undefined
  deriving DecidableEq, Repr

namespace Extended

/-- The sign of a written number, and the rest. -/
def readSign : List Char → Bool × List Char
  | '-' :: rest => (true, rest)
  | '+' :: rest => (false, rest)
  | cs => (false, cs)

/-- The exponent at the end of a written number. -/
def readExponent : List Char → Option Int
  | [] => some 0
  | e :: rest =>
    if e == 'e' || e == 'E' then
      let (negative, digits) := readSign rest
      (ofDigits? digits).map fun n => if negative then -n else n
    else none

/-- Exponents beyond this one leave nothing but zero and the infinite. -/
def exponentLimit : Int := 100000

/-- The double nearest to digits with an exponent. -/
def ofDigits (negative : Bool) (digits : List Char) (exponent : Int) : Extended :=
  let n := foldDigits 0 digits
  if n = 0 then .finite (Binary64.zero negative)
  else if exponentLimit + digits.length < exponent then .infinite negative
  else if exponent < -(exponentLimit + digits.length) then .finite (Binary64.zero negative)
  else
    match Binary64.ofDecimal? negative n exponent with
    | some x => .finite x
    | none => .infinite negative

/-- Reads a number without its sign. -/
def readMagnitude (negative : Bool) (cs : List Char) : Option Extended :=
  match String.ofList (cs.map Char.toLower) with
  | "inf" | "infinity" => some (.infinite negative)
  | "nan" => some .undefined
  | _ =>
    let (whole, rest) := cs.span Char.isDigit
    let (fraction, rest) := match rest with
      | '.' :: more => more.span Char.isDigit
      | _ => ([], rest)
    if whole.isEmpty && fraction.isEmpty then none
    else
      (readExponent rest).map fun exponent =>
        ofDigits negative (whole ++ fraction) (exponent - fraction.length)

/-- Reads a number. -/
def read (text : String) : Option Extended :=
  let (negative, cs) := readSign text.toList
  readMagnitude negative cs

/-- The text of a number, without an exponent. -/
def text : Extended → String
  | .finite x => positional x
  | .infinite false => "inf"
  | .infinite true => "-inf"
  | .undefined => "NaN"

/-- The duration of a number of seconds. -/
def seconds? : Extended → Except Duration.Fault Duration
  | .finite x => Duration.ofSeconds? x
  | .infinite true => .error .negative
  | .infinite false | .undefined => .error .tooLarge

theorem read_nil : read "" = none := by decide

end Extended

end ControlPlane.Number
