import ControlPlane.Dictionary
import ControlPlane.Number.Shortest

/-!
# JSON values

The dynamic values that replies and commands are made of. Numbers are whole within 64 bits, or
doubles; the members of an object are in ascending order of their names.

Main statements: `get?_obj` — a member is looked up by its name, and only objects have members —
and `natural?_eq_some_iff`, that only whole numbers from zero on are read as unsigned integers.
-/
namespace ControlPlane

/-- A number: whole and within the range of signed or unsigned 64-bit integers, or a double. -/
inductive JsonNumber where
  | whole (i : Int)
  | real (x : Number.Binary64)
  deriving DecidableEq, Repr

namespace JsonNumber

/-- Doubles are positional up to sixteen digits before the point and five zeros after it. -/
def style : Number.FloatStyle := ⟨-5, 15, true⟩

/-- The text of a number. -/
def text : JsonNumber → String
  | .whole i => Number.intText i
  | .real x => style.write x

/-- A number as an unsigned integer. -/
def natural? : JsonNumber → Option Nat
  | .whole (.ofNat n) => some n
  | _ => none

end JsonNumber

/-- A JSON value. -/
inductive Json where
  | null
  | bool (b : Bool)
  | num (n : JsonNumber)
  | str (s : String)
  | arr (items : List Json)
  | obj (members : List (String × Json))
  deriving Repr, BEq, Inhabited

namespace Json

/-- A whole number. -/
def int (i : Int) : Json := .num (.whole i)

/-- A natural number. -/
def nat (n : Nat) : Json := .num (.whole (.ofNat n))

/-- A text or nothing. -/
def optional : Option String → Json
  | some s => .str s
  | none => .null

/-- The object with the given members, in ascending order of names. -/
def object (members : List (String × Json)) : Json :=
  .obj (Dictionary.ofList members)

/-- The member of an object. -/
def get? (name : String) : Json → Option Json
  | .obj members => Dictionary.find? name members
  | _ => none

/-- The text of a string. -/
def text? : Json → Option String
  | .str s => some s
  | _ => none

/-- An unsigned integer. -/
def natural? : Json → Option Nat
  | .num n => n.natural?
  | _ => none

/-- Whether a value is an object. -/
def isObject : Json → Bool
  | .obj _ => true
  | _ => false

@[simp] theorem get?_obj (name : String) (members : List (String × Json)) :
    (Json.obj members).get? name = Dictionary.find? name members := rfl

theorem natural?_eq_some_iff {value : Json} {n : Nat} :
    value.natural? = some n ↔ value = .num (.whole n) := by
  constructor
  · intro h
    cases value with
    | num number =>
      cases number with
      | whole i =>
        cases i with
        | ofNat m =>
          rw [natural?, JsonNumber.natural?, Option.some.injEq] at h
          rw [h]
          rfl
        | negSucc m => exact absurd h (by simp [natural?, JsonNumber.natural?])
      | real x => exact absurd h (by simp [natural?, JsonNumber.natural?])
    | null => exact absurd h (by simp [natural?])
    | bool b => exact absurd h (by simp [natural?])
    | str text => exact absurd h (by simp [natural?])
    | arr values => exact absurd h (by simp [natural?])
    | obj members => exact absurd h (by simp [natural?])
  · rintro rfl
    rfl

theorem text?_eq_some_iff {value : Json} {s : String} : value.text? = some s ↔ value = .str s := by
  cases value with
  | str text => simp [text?]
  | null | bool | num | arr | obj => simp [text?]

end Json

end ControlPlane
