import ControlPlane.Number.Binary64
import ControlPlane.Number.Digits

/-!
# Shortest decimals

The decimal text of a double is the shortest one that reads back as the same double, and of
several equally short ones the nearest. `shortest` tries one digit, two digits, … up to
seventeen, which always suffice: on each decimal grid only the two neighbours of the value can
read back if anything does.

How the digits are then written is a `FloatStyle`: where positional notation ends and whether a
positive exponent carries a sign. `positional` never uses an exponent, `fixedPlaces` rounds to a
number of places.
-/
namespace ControlPlane.Number

/-- A decimal `0.d₁d₂… · 10 ^ scale`, its digits as one number. -/
structure Decimal where
  coefficient : Nat
  scale : Int
  deriving DecidableEq, Repr

namespace Decimal

/-- `n · 10 ^ exponent` as a ratio of naturals. -/
def power (n : Nat) (exponent : Int) : Nat × Nat :=
  match exponent with
  | .ofNat e => (n * Nat.pow 10 e, 1)
  | .negSucc e => (n, Nat.pow 10 (e + 1))

/-- The scale of a positive ratio: the least `k` with `num / den < 10 ^ k`, searched upwards from
a bound that is never above it. -/
def scaleFrom (num den : Nat) : Nat → Int → Int
  | 0, k => k
  | fuel + 1, k =>
    let (n, d) := power 1 k
    if num * d < n * den then k else scaleFrom num den fuel (k + 1)

/-- The scale of a positive ratio. -/
def scaleOf (num den : Nat) : Int :=
  let bits : Int := Int.ofNat (Nat.log2 num) - Int.ofNat (Nat.log2 den) - 1
  scaleFrom num den 4 (bits * 30103 / 100000)

/-- Whether `n · 10 ^ exponent` reads back as the given double. -/
def readsBack (x : Binary64) (n : Nat) (exponent : Int) : Bool :=
  let (num, den) := power n exponent
  Binary64.magnitudeOf? num den == some (x.significand, x.exponent)

/-- The neighbour of the double on the grid of step `10 ^ exponent` that reads back, if any; of
two the nearer, and of two equally near ones the even one. -/
def onGrid (x : Binary64) (exponent : Int) : Option Nat :=
  let (num, den) := x.ratio
  let (stepNum, stepDen) := power 1 exponent
  let n := num * stepDen
  let d := den * stepNum
  let below := n / d
  let nearest := roundDiv n d
  let other := if nearest = below then below + 1 else below
  if readsBack x nearest exponent then some nearest
  else if readsBack x other exponent then some other
  else none

/-- The first grid, from `count` digits up, on which a neighbour reads back. -/
def search (x : Binary64) (scale : Int) (count : Nat) : Nat → Nat × Int
  | 0 => (0, scale)
  | fuel + 1 =>
    match onGrid x (scale - count) with
    | some n => (n, scale - count)
    | none => search x scale (count + 1) fuel

/-- Drops zeros at the end of the digits. -/
def stripZeros (n : Nat) (exponent : Int) : Nat → Nat × Int
  | 0 => (n, exponent)
  | fuel + 1 =>
    if n ≠ 0 ∧ n % 10 = 0 then stripZeros (n / 10) (exponent + 1) fuel else (n, exponent)

/-- The shortest decimal that reads back as a non-zero double. -/
def shortest (x : Binary64) : Decimal :=
  let (num, den) := x.ratio
  let (n, e) := search x (scaleOf num den) 1 17
  let (n, e) := stripZeros n e 17
  ⟨n, e + (digits n).length⟩

end Decimal

/-- Where positional notation ends, and how an exponent is signed. -/
structure FloatStyle where
  /-- The smallest exponent of ten that is written positionally. -/
  leastPositional : Int
  /-- The largest one. -/
  greatestPositional : Int
  /-- Whether a positive exponent carries a plus sign. -/
  signedExponent : Bool

namespace FloatStyle

/-- Digits with the point after `scale` of them. -/
def pointed (ds : List Char) (scale : Int) (wholeMark : List Char) : List Char :=
  match scale with
  | .ofNat 0 => ['0', '.'] ++ ds
  | .ofNat k =>
    if ds.length ≤ k then ds ++ List.replicate (k - ds.length) '0' ++ wholeMark
    else ds.take k ++ ['.'] ++ ds.drop k
  | .negSucc k => ['0', '.'] ++ List.replicate (k + 1) '0' ++ ds

/-- Digits in scientific notation. -/
def scientific (style : FloatStyle) (ds : List Char) (exponent : Int) : List Char :=
  let mantissa := match ds with
    | [] => []
    | [d] => [d]
    | d :: rest => d :: '.' :: rest
  let power := match exponent with
    | .ofNat e => (if style.signedExponent then ['+'] else []) ++ digits e
    | .negSucc e => '-' :: digits (e + 1)
  mantissa ++ ['e'] ++ power

/-- The text of a double in a style. -/
def write (style : FloatStyle) (x : Binary64) : String :=
  let body :=
    if x.isZero then ['0', '.', '0']
    else
      let decimal := Decimal.shortest x
      let ds := digits decimal.coefficient
      let exponent := decimal.scale - 1
      if style.leastPositional ≤ exponent ∧ exponent ≤ style.greatestPositional then
        pointed ds decimal.scale ['.', '0']
      else style.scientific ds exponent
  String.ofList (if x.negative then '-' :: body else body)

end FloatStyle

/-- A double without an exponent, and without a fraction when it is whole. -/
def positional (x : Binary64) : String :=
  let body :=
    if x.isZero then ['0']
    else
      let decimal := Decimal.shortest x
      FloatStyle.pointed (digits decimal.coefficient) decimal.scale []
  String.ofList (if x.negative then '-' :: body else body)

/-- The magnitude of a double rounded to a number of places, a half going to the even digit. -/
def fixedPlaces (places : Nat) (x : Binary64) : String :=
  let (num, den) := x.ratio
  let scaled := roundDiv (num * Nat.pow 10 places) den
  let ds := padded (places + 1) scaled
  let whole := ds.length - places
  String.ofList (ds.take whole ++ ['.'] ++ ds.drop whole)

end ControlPlane.Number
