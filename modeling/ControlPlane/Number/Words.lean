/-!
# Words

The ranges of whole numbers of fixed width, which settings and records are read in and clocks
count in.

Main statement: `isSigned64_iff` — a number of 64 bits with a sign lies from the least to the
greatest one.
-/
namespace ControlPlane.Number

/-- The greatest number of 16 bits. -/
def greatest16 : Nat := 0xFFFF

/-- The greatest number of 32 bits. -/
def greatest32 : Nat := 0xFFFFFFFF

/-- The greatest number of 64 bits. -/
def greatest64 : Nat := 0xFFFFFFFFFFFFFFFF

/-- The greatest number of 64 bits with a sign. -/
def greatestSigned64 : Nat := 0x7FFFFFFFFFFFFFFF

/-- Whether an integer has 64 bits with a sign. -/
def isSigned64 : Int → Bool
  | .ofNat n => decide (n ≤ greatestSigned64)
  | .negSucc n => decide (n ≤ greatestSigned64)

theorem isSigned64_iff (i : Int) :
    isSigned64 i = true ↔ -9223372036854775808 ≤ i ∧ i ≤ 9223372036854775807 := by
  cases i with
  | ofNat n =>
    rw [isSigned64, decide_eq_true_iff, greatestSigned64]
    simp only [Int.ofNat_eq_natCast]
    omega
  | negSucc n =>
    rw [isSigned64, decide_eq_true_iff, greatestSigned64, Int.negSucc_eq]
    omega

end ControlPlane.Number
