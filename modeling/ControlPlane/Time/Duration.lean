import ControlPlane.Number.Shortest
import ControlPlane.Number.Words

/-!
# Durations and instants

Spans of time and points in time, counted in nanoseconds. The library's own clock arithmetic is
exact; where a sum has to fit into a fixed number of seconds, `fits` says so.

A duration is described in the largest unit of seconds, milliseconds, microseconds and
nanoseconds that it fills (`description`), and reported in seconds with three places
(`secondsText`).

Main statement: `seconds_add_nanos` — whole seconds and the rest make up the duration.
-/
namespace ControlPlane

/-- A span of time. -/
structure Duration where
  nanoseconds : Nat
  deriving DecidableEq, Repr, Inhabited

/-- A point in time, from the start of the clock. -/
structure Instant where
  nanoseconds : Nat
  deriving DecidableEq, Repr, Inhabited

namespace Duration

/-- Nanoseconds in a second. -/
def perSecond : Nat := 1000000000

/-- No time at all. -/
def zero : Duration := ⟨0⟩

/-- A number of seconds. -/
def ofSeconds (n : Nat) : Duration := ⟨n * perSecond⟩

/-- A number of milliseconds. -/
def ofMilliseconds (n : Nat) : Duration := ⟨n * 1000000⟩

/-- The whole seconds. -/
def seconds (d : Duration) : Nat := d.nanoseconds / perSecond

/-- The nanoseconds beyond the whole seconds. -/
def nanos (d : Duration) : Nat := d.nanoseconds % perSecond

/-- The sum of two durations. -/
def add (d e : Duration) : Duration := ⟨d.nanoseconds + e.nanoseconds⟩

/-- Whether the seconds fit into 64 bits. -/
def fits (d : Duration) : Bool := decide (d.seconds ≤ Number.greatest64)

/-- Digits after the point, without zeros at the end. -/
def fractionText (digits : List Char) : List Char :=
  match (digits.reverse.dropWhile (· == '0')).reverse with
  | [] => []
  | kept => '.' :: kept

/-- A duration in the largest unit that it fills. -/
def description (d : Duration) : String :=
  let inUnit (unit places : Nat) (name : String) : String :=
    String.ofList (Number.digits (d.nanoseconds / unit) ++
      fractionText (Number.padded places (d.nanoseconds % unit))) ++ name
  if perSecond ≤ d.nanoseconds then inUnit perSecond 9 "s"
  else if 1000000 ≤ d.nanoseconds then inUnit 1000000 6 "ms"
  else if 1000 ≤ d.nanoseconds then inUnit 1000 3 "µs"
  else Number.text d.nanoseconds ++ "ns"

/-- The duration in seconds as a double: the double of the whole seconds plus the double of the
fraction. -/
def asSeconds (d : Duration) : Number.Binary64 :=
  let whole := (Number.Binary64.ofNat? d.seconds).getD (Number.Binary64.zero false)
  let fraction :=
    (Number.Binary64.ofRatio? false d.nanos perSecond).getD (Number.Binary64.zero false)
  (whole.addMagnitudes? fraction).getD (Number.Binary64.zero false)

/-- The duration in seconds with three places. -/
def secondsText (d : Duration) : String :=
  Number.fixedPlaces 3 d.asSeconds ++ "s"

/-- Why a number of seconds is no duration. -/
inductive Fault where
  | negative
  | tooLarge
  deriving DecidableEq, Repr

/-- The reason, in words. -/
def Fault.message : Fault → String
  | .negative => "cannot convert float seconds to Duration: value is negative"
  | .tooLarge => "cannot convert float seconds to Duration: value is either too big or NaN"

/-- The duration nearest to a number of seconds. -/
def ofSeconds? (x : Number.Binary64) : Except Fault Duration :=
  if x.negative && !x.isZero then .error .negative
  else
    let (num, den) := x.ratio
    let d : Duration := ⟨Number.roundDiv (num * perSecond) den⟩
    if d.fits then .ok d else .error .tooLarge

instance : LE Duration := ⟨fun a b => a.nanoseconds ≤ b.nanoseconds⟩

instance : LT Duration := ⟨fun a b => a.nanoseconds < b.nanoseconds⟩

instance (a b : Duration) : Decidable (a ≤ b) :=
  inferInstanceAs (Decidable (a.nanoseconds ≤ b.nanoseconds))

instance (a b : Duration) : Decidable (a < b) :=
  inferInstanceAs (Decidable (a.nanoseconds < b.nanoseconds))

theorem nanoseconds_pos {d : Duration} (h : d ≠ .zero) : 0 < d.nanoseconds :=
  Nat.pos_of_ne_zero fun hzero => h (congrArg Duration.mk hzero)

theorem seconds_add_nanos (d : Duration) : d.seconds * perSecond + d.nanos = d.nanoseconds := by
  simp only [seconds, nanos]
  exact Nat.div_add_mod' d.nanoseconds perSecond

end Duration

namespace Instant

/-- The instant a duration later. -/
def later (t : Instant) (d : Duration) : Instant := ⟨t.nanoseconds + d.nanoseconds⟩

/-- The time from one instant to a later one. -/
def since (t start : Instant) : Duration := ⟨t.nanoseconds - start.nanoseconds⟩

/-- Whether an instant's seconds fit into a signed integer of 64 bits. -/
def fits (t : Instant) : Bool :=
  decide (t.nanoseconds / Duration.perSecond ≤ Number.greatestSigned64)

/-- The instant a duration later, if the clock can represent it. -/
def later? (t : Instant) (d : Duration) : Option Instant :=
  let sum := t.later d
  if sum.fits then some sum else none

instance : LE Instant := ⟨fun a b => a.nanoseconds ≤ b.nanoseconds⟩

instance : LT Instant := ⟨fun a b => a.nanoseconds < b.nanoseconds⟩

instance (a b : Instant) : Decidable (a ≤ b) :=
  inferInstanceAs (Decidable (a.nanoseconds ≤ b.nanoseconds))

instance (a b : Instant) : Decidable (a < b) :=
  inferInstanceAs (Decidable (a.nanoseconds < b.nanoseconds))

theorem le_refl (a : Instant) : a ≤ a := Nat.le_refl _

theorem le_trans {a b c : Instant} (hab : a ≤ b) (hbc : b ≤ c) : a ≤ c := Nat.le_trans hab hbc

theorem le_later (t : Instant) (d : Duration) : t ≤ t.later d := Nat.le_add_right _ _

theorem later_of_later? {t deadline : Instant} {d : Duration} (h : t.later? d = some deadline) :
    t.later d = deadline := by
  by_cases hfits : (t.later d).fits = true
  · exact Option.some.inj ((if_pos hfits).symm.trans h)
  · exact absurd ((if_neg hfits).symm.trans h) (by simp)

theorem isSome_later?_iff {t : Instant} {d : Duration} :
    (t.later? d).isSome ↔ (t.later d).fits = true := by
  rw [later?]
  split
  · simp [*]
  · simp [*]

/-- A clock that can represent an instant can represent every earlier one. -/
theorem fits_of_le {t earlier : Instant} (h : t.fits = true) (hle : earlier ≤ t) :
    earlier.fits = true := by
  rw [fits, decide_eq_true_iff] at h ⊢
  exact Nat.le_trans (Nat.div_le_div_right hle) h

theorem later?_eq_some {t : Instant} {d : Duration} (h : (t.later d).fits = true) :
    t.later? d = some (t.later d) := if_pos h

theorem fits_of_later? {t deadline : Instant} {d : Duration} (h : t.later? d = some deadline) :
    deadline.fits = true := by
  rw [← later_of_later? h]
  exact isSome_later?_iff.1 (h ▸ rfl)

theorem later_since {start t : Instant} (h : start ≤ t) : start.later (t.since start) = t :=
  congrArg Instant.mk (Nat.add_sub_cancel' h)

end Instant

end ControlPlane
