import ControlPlane.Text.CombiningClass
import ControlPlane.Text.Composition

/-!
# Composed text

The same letters and marks can be written in several ways: composed into one character or apart,
and with marks of different classes in any order. `composed` picks one of them, the normal form NFC
of the Unicode Standard: every character is taken apart (`decomposed`), marks are put in the order
of their classes (`inOrder`), and what composes is composed again (`compose`).

Main statements: ordering marks changes their order only (`inOrder_perm`), and ASCII text is
composed as it is (`composed_of_ascii`).
-/
namespace ControlPlane.Text

/-! ## Taking apart -/

/-- The most steps that it takes to take a character apart. -/
def deepestComposite : Nat := 3

/-- The parts of a character, found in at most the given number of steps. -/
def partsOf : Nat → Char → List Char
  | 0, c => [c]
  | steps + 1, c =>
    match decomposePair? c with
    | some (first, second) => partsOf steps first ++ [second]
    | none => [c]

/-- A text with every character taken apart. -/
def decomposed (cs : List Char) : List Char :=
  cs.flatMap (partsOf deepestComposite)

/-! ## The order of marks -/

/-- Puts a character in front of a text, past the marks of lower classes. -/
def insertMark (c : Char) : List Char → List Char
  | [] => [c]
  | d :: rest =>
    if combiningClass d ≠ 0 ∧ combiningClass d < combiningClass c then d :: insertMark c rest
    else c :: d :: rest

/-- A text with the marks after each starter in the order of their classes. -/
def inOrder (cs : List Char) : List Char :=
  cs.foldr insertMark []

theorem insertMark_perm (c : Char) (cs : List Char) : (insertMark c cs).Perm (c :: cs) := by
  induction cs with
  | nil => exact .refl _
  | cons d rest ih =>
    unfold insertMark
    split
    · exact (ih.cons d).trans (.swap c d rest)
    · exact .refl _

theorem inOrder_perm (cs : List Char) : (inOrder cs).Perm cs := by
  induction cs with
  | nil => exact .refl _
  | cons c rest ih => exact (insertMark_perm c (inOrder rest)).trans (ih.cons c)

/-! ## Composing -/

/-- Whether a mark in between, the last of `held`, keeps a character from the starter. -/
def isBlocked (held : List Char) (c : Char) : Bool :=
  match held with
  | [] => false
  | mark :: _ => decide (combiningClass c ≤ combiningClass mark)

/-- Composes what follows a starter with it as far as possible; `held` are the marks, the last one
first, that stay behind the starter. -/
def composeAfter (starter : Char) (held : List Char) : List Char → List Char
  | [] => starter :: held.reverse
  | c :: rest =>
    match if isBlocked held c then none else composePair? starter c with
    | some composite => composeAfter composite held rest
    | none =>
      if isStarter c then starter :: (held.reverse ++ composeAfter c [] rest)
      else composeAfter starter (c :: held) rest

/-- Composes a text whose marks are in order; marks in front of the first starter stay. -/
def compose : List Char → List Char
  | [] => []
  | c :: rest => if isStarter c then composeAfter c [] rest else c :: compose rest

/-- The composed form of a text. -/
def composed (cs : List Char) : List Char :=
  compose (inOrder (decomposed cs))

/-! ## ASCII -/

theorem partsOf_of_ascii (steps : Nat) {c : Char} (h : isAscii c = true) :
    partsOf steps c = [c] := by
  cases steps with
  | zero => rfl
  | succ n => simp [partsOf, decomposePair?_of_ascii h]

theorem decomposed_of_ascii {cs : List Char} (h : ∀ c ∈ cs, isAscii c = true) :
    decomposed cs = cs := by
  induction cs with
  | nil => rfl
  | cons c rest ih =>
    have hrest := ih fun d hd => h d (by simp [hd])
    simp only [decomposed, List.flatMap_cons] at hrest ⊢
    rw [hrest, partsOf_of_ascii _ (h c (by simp))]
    rfl

theorem inOrder_of_ascii {cs : List Char} (h : ∀ c ∈ cs, isAscii c = true) :
    inOrder cs = cs := by
  induction cs with
  | nil => rfl
  | cons c rest ih =>
    have hrest := ih fun d hd => h d (by simp [hd])
    simp only [inOrder] at hrest ⊢
    rw [List.foldr_cons, hrest]
    cases rest with
    | nil => rfl
    | cons d more => simp [insertMark, combiningClass_of_ascii (h d (by simp))]

theorem composeAfter_of_ascii (starter : Char) {cs : List Char} (h : ∀ c ∈ cs, isAscii c = true) :
    composeAfter starter [] cs = starter :: cs := by
  induction cs generalizing starter with
  | nil => rfl
  | cons c rest ih =>
    have hc := h c (by simp)
    simp [composeAfter, isBlocked, composePair?_of_ascii starter hc, isStarter_of_ascii hc,
      ih c fun d hd => h d (by simp [hd])]

theorem compose_of_ascii {cs : List Char} (h : ∀ c ∈ cs, isAscii c = true) : compose cs = cs := by
  cases cs with
  | nil => rfl
  | cons c rest =>
    have hrest : composeAfter c [] rest = c :: rest :=
      composeAfter_of_ascii c fun d hd => h d (by simp [hd])
    simp [compose, isStarter_of_ascii (h c (by simp)), hrest]

theorem composed_of_ascii {cs : List Char} (h : ∀ c ∈ cs, isAscii c = true) :
    composed cs = cs := by
  rw [composed, decomposed_of_ascii h, inOrder_of_ascii h, compose_of_ascii h]

end ControlPlane.Text
