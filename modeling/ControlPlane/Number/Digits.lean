/-!
# Decimal digits

Reading and writing natural numbers in decimal, with the ranges that settings, ports and worker
counts are read in.

Main statements: `ofDigits?` reads a non-empty run of digits and nothing else
(`ofDigits?_eq_none_of_not_digit`), and `readUnsigned` never yields a number above its bound
(`readUnsigned_le`).
-/
namespace ControlPlane.Number

/-- The digits of a number, without leading zeros. -/
def digits (n : Nat) : List Char :=
  Nat.toDigits 10 n

/-- The decimal text of a number. -/
def text (n : Nat) : String :=
  String.ofList (digits n)

/-- The decimal text of an integer. -/
def intText (i : Int) : String :=
  match i with
  | .ofNat n => text n
  | .negSucc n => String.ofList ('-' :: digits (n + 1))

/-- Digits padded with zeros in front to a least width. -/
def padded (width n : Nat) : List Char :=
  let ds := digits n
  List.replicate (width - ds.length) '0' ++ ds

/-- The value of one decimal digit. -/
def digitValue (c : Char) : Nat :=
  c.toNat - '0'.toNat

/-- The number that a run of digits continues from `n`. -/
def foldDigits (n : Nat) (cs : List Char) : Nat :=
  cs.foldl (fun acc c => 10 * acc + digitValue c) n

/-- The number written by a non-empty run of decimal digits. -/
def ofDigits? (cs : List Char) : Option Nat :=
  if cs.isEmpty then none
  else if cs.all Char.isDigit then some (foldDigits 0 cs)
  else none

/-- The value of a digit in a base up to sixteen. -/
def radixDigit? (base : Nat) (c : Char) : Option Nat :=
  let value? :=
    if c.isDigit then some (c.toNat - '0'.toNat)
    else if 'a' ≤ c ∧ c ≤ 'f' then some (c.toNat - 'a'.toNat + 10)
    else if 'A' ≤ c ∧ c ≤ 'F' then some (c.toNat - 'A'.toNat + 10)
    else none
  value?.filter (· < base)

/-- The number written by a non-empty run of digits of a base. -/
def ofRadixDigits? (base : Nat) (cs : List Char) : Option Nat :=
  if cs.isEmpty then none
  else cs.foldlM (fun acc c => (radixDigit? base c).map (base * acc + ·)) 0

/-- An unsigned number of a setting: an optional plus sign, then digits, at most `bound`. -/
def readUnsigned (bound : Nat) (cs : List Char) : Option Nat :=
  let body := match cs with
    | '+' :: rest => rest
    | _ => cs
  (ofDigits? body).filter (· ≤ bound)

/-! ## What is read -/

theorem ofDigits?_eq_none_of_not_digit {cs : List Char} {c : Char} (hc : c ∈ cs)
    (h : c.isDigit = false) : ofDigits? cs = none := by
  have hall : cs.all Char.isDigit = false := by
    rw [List.all_eq_false]
    exact ⟨c, hc, by simp [h]⟩
  simp [ofDigits?, hall]

theorem readUnsigned_le {bound : Nat} {cs : List Char} {n : Nat}
    (h : readUnsigned bound cs = some n) : n ≤ bound := by
  unfold readUnsigned at h
  have := (Option.filter_eq_some_iff.1 h).2
  simpa using this

end ControlPlane.Number
