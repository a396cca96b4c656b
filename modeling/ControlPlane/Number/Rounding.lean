/-!
# Rounding a quotient

Division of naturals to the nearest whole number, a half going to the even neighbour. Every
inexact number of the library goes through it: doubles, digits of a double, fixed places.

Main statements: the result is within half a unit (`two_mul_roundDiv_le`,
`le_two_mul_roundDiv`), and an exact quotient is not changed (`roundDiv_mul`).
-/
namespace ControlPlane.Number

/-- The quotient to the nearest whole number; a half goes to the even one. -/
def roundDiv (num den : Nat) : Nat :=
  let quotient := num / den
  let twice := 2 * (num % den)
  if twice < den then quotient
  else if den < twice then quotient + 1
  else quotient + quotient % 2

/-! ## Half a unit -/

theorem two_mul_roundDiv_le (num : Nat) {den : Nat} (h : 0 < den) :
    2 * (den * roundDiv num den) ≤ 2 * num + den := by
  have hdiv := Nat.div_add_mod num den
  have hmod := Nat.mod_lt num h
  have hexp : ∀ k, den * (num / den + k) = den * (num / den) + den * k := fun k => Nat.mul_add ..
  unfold roundDiv
  simp only
  split
  · omega
  · split
    · have := hexp 1
      omega
    · have h2 : num / den % 2 = 0 ∨ num / den % 2 = 1 := by omega
      rcases h2 with h2 | h2
      · rw [h2]; have := hexp 0; omega
      · rw [h2]; have := hexp 1; omega

theorem le_two_mul_roundDiv (num : Nat) {den : Nat} (h : 0 < den) :
    2 * num ≤ 2 * (den * roundDiv num den) + den := by
  have hdiv := Nat.div_add_mod num den
  have hmod := Nat.mod_lt num h
  have hexp : ∀ k, den * (num / den + k) = den * (num / den) + den * k := fun k => Nat.mul_add ..
  unfold roundDiv
  simp only
  split
  · omega
  · split
    · have := hexp 1
      omega
    · have h2 : num / den % 2 = 0 ∨ num / den % 2 = 1 := by omega
      rcases h2 with h2 | h2
      · rw [h2]; have := hexp 0; omega
      · rw [h2]; have := hexp 1; omega

theorem roundDiv_mul (n : Nat) {den : Nat} (h : 0 < den) : roundDiv (n * den) den = n := by
  simp [roundDiv, Nat.mul_div_cancel n h, h]

end ControlPlane.Number
