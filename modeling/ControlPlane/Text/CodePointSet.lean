/-!
# Sets of code points

A property of characters, such as "is cased", is a set of code points. It is stored as the
ascending list of the places where membership changes: the first bound opens the first run,
the second closes it, and so on. A code point is a member when an odd number of bounds lie at
or below it (`contains`).

Main statement: `contains_eq_false_of_lt` — nothing below the first bound is a member, which is
how the sets used by the library are known to leave ASCII alone.
-/
namespace ControlPlane.Text

/-- A set of code points, by the ascending places where membership flips. -/
structure CodePointSet where
  bounds : List Nat

namespace CodePointSet

/-- Whether `point` is a member, given whether everything below the first bound left is one. -/
def inside (point : Nat) : Bool → List Nat → Bool
  | within, [] => within
  | within, bound :: rest => if point < bound then within else inside point (!within) rest

/-- Whether a character belongs to the set. -/
def contains (set : CodePointSet) (c : Char) : Bool :=
  inside c.toNat false set.bounds

/-! ## Below the first bound -/

theorem inside_cons_of_lt {point bound : Nat} (h : point < bound) (within : Bool)
    (rest : List Nat) : inside point within (bound :: rest) = within := by
  simp [inside, h]

theorem contains_eq_false_of_lt {set : CodePointSet} {bound : Nat} {rest : List Nat} {c : Char}
    (hset : set.bounds = bound :: rest) (h : c.toNat < bound) : set.contains c = false := by
  simp [contains, hset, inside_cons_of_lt h]

end CodePointSet

end ControlPlane.Text
