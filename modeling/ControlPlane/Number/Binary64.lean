import ControlPlane.Number.Rounding

/-!
# Doubles

Finite double-precision numbers as exact dyadic rationals: a sign, a significand of at most 53
bits and a power of two. Arithmetic is exact arithmetic on naturals followed by one rounding to
the nearest double, a tie going to the even significand; a result too large for a double is
reported as `none` and never wraps.

Main statement: `significand_lt_of_magnitudeOf?` — what rounding returns is a double: its
significand has at most 53 bits.
-/
namespace ControlPlane.Number

/-- A finite double: `± significand · 2 ^ exponent`. -/
structure Binary64 where
  negative : Bool
  significand : Nat
  exponent : Int
  deriving DecidableEq, Repr, Inhabited

namespace Binary64

/-- The smallest exponent of a double. -/
def leastExponent : Int := -1074

/-- The largest exponent of a double. -/
def greatestExponent : Int := 971

/-- A significand has fewer bits than this number, the fifty-third power of two. -/
def significandBound : Nat := 0x20000000000000

/-- The least significand of 53 bits. -/
def leadingBit : Nat := 0x10000000000000

/-- Zero with a sign. -/
def zero (negative : Bool) : Binary64 :=
  ⟨negative, 0, leastExponent⟩

/-- The ratio `num / den` divided by a power of two, as a ratio. -/
def shifted (num den : Nat) (exponent : Int) : Nat × Nat :=
  match exponent with
  | .ofNat e => (num, den * Nat.pow 2 e)
  | .negSucc e => (num * Nat.pow 2 (e + 1), den)

/-- Rounds to a significand at a given exponent; a significand of 54 bits moves up one exponent. -/
def atExponent (num den : Nat) (exponent : Int) : Option (Nat × Int) :=
  let (n, d) := shifted num den exponent
  let rounded := roundDiv n d
  let (m, e) :=
    if rounded < significandBound then (rounded, exponent) else (leadingBit, exponent + 1)
  if e ≤ greatestExponent then some (m, e) else none

/-- The double nearest to `num / den`, as significand and exponent. -/
def magnitudeOf? (num den : Nat) : Option (Nat × Int) :=
  if num = 0 then some (0, leastExponent)
  else
    let guess : Int := Int.ofNat (Nat.log2 num) - Int.ofNat (Nat.log2 den) - 53
    let (n, d) := shifted num den guess
    let exact := if n < significandBound * d then guess else guess + 1
    atExponent num den (max exact leastExponent)

/-- The double nearest to a ratio, unless it is too large. -/
def ofRatio? (negative : Bool) (num den : Nat) : Option Binary64 :=
  (magnitudeOf? num den).map fun (m, e) => ⟨negative, m, e⟩

/-- The magnitude of a double as a ratio of naturals. -/
def ratio (x : Binary64) : Nat × Nat :=
  match x.exponent with
  | .ofNat e => (x.significand * Nat.pow 2 e, 1)
  | .negSucc e => (x.significand, Nat.pow 2 (e + 1))

/-- Whether a double is zero, of either sign. -/
def isZero (x : Binary64) : Bool :=
  x.significand == 0

/-- The double nearest to a natural number. -/
def ofNat? (n : Nat) : Option Binary64 :=
  ofRatio? false n 1

/-- The rounded product. -/
def mul? (x y : Binary64) : Option Binary64 :=
  let (n₁, d₁) := x.ratio
  let (n₂, d₂) := y.ratio
  ofRatio? (x.negative != y.negative) (n₁ * n₂) (d₁ * d₂)

/-- The rounded quotient; there is none by zero. -/
def div? (x y : Binary64) : Option Binary64 :=
  if y.isZero then none
  else
    let (n₁, d₁) := x.ratio
    let (n₂, d₂) := y.ratio
    ofRatio? (x.negative != y.negative) (n₁ * d₂) (d₁ * n₂)

/-- The rounded sum of the magnitudes of two doubles. -/
def addMagnitudes? (x y : Binary64) : Option Binary64 :=
  let (n₁, d₁) := x.ratio
  let (n₂, d₂) := y.ratio
  ofRatio? false (n₁ * d₂ + n₂ * d₁) (d₁ * d₂)

/-- The double nearest to `digits · 10 ^ exponent`. Exponents far outside the range of doubles
are decided without computing the power. -/
def ofDecimal? (negative : Bool) (digits : Nat) (exponent : Int) : Option Binary64 :=
  if digits = 0 then some (zero negative)
  else match exponent with
    | .ofNat e => if e > 400 then none else ofRatio? negative (digits * Nat.pow 10 e) 1
    | .negSucc e =>
      if e > 400 + Nat.log2 digits then some (zero negative)
      else ofRatio? negative digits (Nat.pow 10 (e + 1))

/-! ## Rounding yields a double -/

theorem significand_lt_of_atExponent {num den : Nat} {exponent : Int} {m : Nat} {e : Int}
    (h : atExponent num den exponent = some (m, e)) : m < significandBound := by
  unfold atExponent at h
  by_cases hr : roundDiv (shifted num den exponent).1 (shifted num den exponent).2 <
      significandBound
  · simp only [hr, if_true] at h
    split at h
    · cases h; exact hr
    · cases h
  · simp only [hr, if_false] at h
    split at h
    · cases h; decide
    · cases h

theorem significand_lt_of_magnitudeOf? {num den m : Nat} {e : Int}
    (h : magnitudeOf? num den = some (m, e)) : m < significandBound := by
  unfold magnitudeOf? at h
  split at h
  · cases h; decide
  · exact significand_lt_of_atExponent h

end Binary64

end ControlPlane.Number
