import ControlPlane.Text.Lowercase

/-!
# Punycode

Servers of names know ASCII only, so a label with other characters is written with ASCII letters,
digits and hyphens (RFC 3492). Its ASCII characters come first, then, behind a hyphen, numbers that
tell where to insert the others: in ascending order, and equal ones from left to right. Each number
counts the places that are passed over since the last insertion, where a place is a code point
together with an index into the text so far (`Cursor`). Numbers have digits to base 36, and the
highest digit of a number is marked by being below the threshold of its place (`threshold`), which
is fitted to the numbers before.

Main statements: reading a digit gives its value (`digitValue?_digit`), and encoded text is ASCII
(`isAscii_of_mem_encode`).
-/
namespace ControlPlane.Url.Domain.Punycode

/-! ## Digits -/

/-- The digit of a value below 36: a letter, then a decimal digit. -/
def digit (value : Nat) : Char :=
  if value < 26 then Char.ofNat (0x61 + value) else Char.ofNat (0x30 + (value - 26))

/-- The value of a digit. -/
def digitValue? (c : Char) : Option Nat :=
  if c.isLower then some (c.toNat - 0x61)
  else if c.isDigit then some (c.toNat - 0x30 + 26)
  else none

theorem digitValue?_digit {value : Nat} (h : value < 36) :
    digitValue? (digit value) = some value := by
  have : ∀ v : Fin 36, digitValue? (digit v.val) = some v.val := by decide
  exact this ⟨value, h⟩

theorem isAscii_digit {value : Nat} (h : value < 36) : Text.isAscii (digit value) = true := by
  have : ∀ v : Fin 36, Text.isAscii (digit v.val) = true := by decide
  exact this ⟨value, h⟩

/-- The value from which on a digit does not end its number, at a place counted from 0. -/
def threshold (bias place : Nat) : Nat :=
  max 1 (min 26 (36 * (place + 1) - bias))

theorem threshold_pos (bias place : Nat) : 0 < threshold bias place := by
  unfold threshold
  omega

theorem threshold_le (bias place : Nat) : threshold bias place ≤ 26 := by
  unfold threshold
  omega

/-- The digits of a number from a place on, the lowest first. -/
def digits (bias place n : Nat) : List Char :=
  let bound := threshold bias place
  if n < bound then [digit n]
  else digit (bound + (n - bound) % (36 - bound)) ::
    digits bias (place + 1) ((n - bound) / (36 - bound))
termination_by n
decreasing_by
  have hpos := threshold_pos bias place
  exact Nat.lt_of_le_of_lt (Nat.div_le_self ..) (by omega)

theorem isAscii_of_mem_digits {bias place n : Nat} {c : Char} (h : c ∈ digits bias place n) :
    Text.isAscii c = true := by
  fun_induction digits bias place n with
  | case1 place n bound hlt =>
    have hle := threshold_le bias place
    rw [List.mem_singleton.1 h]
    exact isAscii_digit (by omega)
  | case2 place n bound hge ih =>
    have hle := threshold_le bias place
    rcases List.mem_cons.1 h with rfl | h
    · have := Nat.mod_lt (n - bound) (y := 36 - bound) (by omega)
      exact isAscii_digit (by omega)
    · exact ih h

/-! ## The bias of numbers -/

/-- The bias that suits numbers of a size: 36 for every digit that they need. -/
def biasOf (size : Nat) : Nat :=
  if 455 < size then 36 + biasOf (size / 35) else 36 * size / (size + 38)
termination_by size

/-- The bias after a number. The first number says more about the script than about the size of
those to come, and in a longer text numbers get smaller. -/
def biasAfter (number length : Nat) (isFirst : Bool) : Nat :=
  let damped := if isFirst then number / 700 else number / 2
  biasOf (damped + damped / length)

/-! ## Places -/

/-- Between two insertions: the length of the text, the next place to consider, as a code point
and an index, and the bias of the next number. -/
structure Cursor where
  length : Nat
  point : Nat := 0x80
  index : Nat := 0
  bias : Nat := 72

namespace Cursor

/-- How many places lie between the cursor and another place. -/
def distance (cursor : Cursor) (point index : Nat) : Nat :=
  (point - cursor.point) * (cursor.length + 1) + index - cursor.index

/-- The place at a distance from the cursor. -/
def place (cursor : Cursor) (distance : Nat) : Nat × Nat :=
  let steps := cursor.index + distance
  (cursor.point + steps / (cursor.length + 1), steps % (cursor.length + 1))

/-- The cursor behind an insertion; only the first one can start at index 0. -/
def advance (cursor : Cursor) (point index distance : Nat) : Cursor :=
  { length := cursor.length + 1, point, index := index + 1
    bias := biasAfter distance (cursor.length + 1) (cursor.index == 0) }

end Cursor

/-! ## Writing -/

/-- The characters beyond ASCII of a text that follows the reversed `before`, each with its index
at the time it is inserted: characters of higher code points are not there yet. -/
def insertionsAfter (before : List Char) : List Char → List (Nat × Nat)
  | [] => []
  | c :: rest =>
    let later := insertionsAfter (c :: before) rest
    if Text.isAscii c then later
    else (c.toNat, before.countP fun d => decide (d.toNat ≤ c.toNat)) :: later

/-- The insertions that build a text, in their order. -/
def insertions (cs : List Char) : List (Nat × Nat) :=
  (insertionsAfter [] cs).mergeSort fun a b => decide (a.1 ≤ b.1)

/-- The numbers of insertions. -/
def encodeFrom (cursor : Cursor) : List (Nat × Nat) → List Char
  | [] => []
  | (point, index) :: rest =>
    let distance := cursor.distance point index
    digits cursor.bias 0 distance ++ encodeFrom (cursor.advance point index distance) rest

/-- The encoded form of a text. -/
def encode (cs : List Char) : List Char :=
  let basic := cs.filter Text.isAscii
  let delimiter := if basic.isEmpty then [] else ['-']
  basic ++ delimiter ++ encodeFrom { length := basic.length } (insertions cs)

theorem isAscii_of_mem_encodeFrom {cursor : Cursor} {places : List (Nat × Nat)} {c : Char}
    (h : c ∈ encodeFrom cursor places) : Text.isAscii c = true := by
  induction places generalizing cursor with
  | nil => simp [encodeFrom] at h
  | cons place rest ih =>
    rcases List.mem_append.1 h with h | h
    · exact isAscii_of_mem_digits h
    · exact ih h

theorem isAscii_of_mem_encode {cs : List Char} {c : Char} (h : c ∈ encode cs) :
    Text.isAscii c = true := by
  unfold encode at h
  rcases List.mem_append.1 h with h | h
  · rcases List.mem_append.1 h with h | h
    · exact (List.mem_filter.1 h).2
    · split at h
      · simp at h
      · rw [List.mem_singleton.1 h]
        rfl
  · exact isAscii_of_mem_encodeFrom h

/-! ## Reading -/

/-- The part of a number that is read: how many digits, what the next one counts, the sum. -/
structure NumberSoFar where
  place : Nat := 0
  weight : Nat := 1
  value : Nat := 0

/-- Carries out the insertions that numbers tell; none if they are broken off or name a code
point of no character. -/
def decodeFrom (text : List Char) (cursor : Cursor) (number : NumberSoFar) :
    List Char → Option (List Char)
  | [] => if number.place = 0 then some text else none
  | c :: rest =>
    match digitValue? c with
    | none => none
    | some d =>
      let bound := threshold cursor.bias number.place
      let value := number.value + d * number.weight
      if d < bound then
        let (point, index) := cursor.place value
        if point.isValidChar then
          decodeFrom (text.insertIdx index (Char.ofNat point)) (cursor.advance point index value)
            {} rest
        else none
      else
        let weight := number.weight * (36 - bound)
        decodeFrom text cursor { place := number.place + 1, weight, value } rest

/-- The text that is encoded; lower-case letters are expected. -/
def decode (cs : List Char) : Option (List Char) :=
  let basic := ((cs.reverse.dropWhile (· != '-')).drop 1).reverse
  let code := if basic.isEmpty then cs else cs.drop (basic.length + 1)
  decodeFrom basic { length := basic.length } {} code

end ControlPlane.Url.Domain.Punycode
