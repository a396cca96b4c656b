import ControlPlane.Text.CaseIgnorable
import ControlPlane.Text.Cased
import ControlPlane.Text.Lowercase.Ranges

/-!
# Lower-casing

Requests are signed over their lower-cased text, and parameters are ordered by their lower-cased
names, so lower-casing is part of what client and server have to agree on. It follows the
Unicode Standard for all of its characters:

* a capital becomes its small letter (`lowerSimple`);
* `İ` becomes two characters, an `i` and a dot above;
* a capital sigma at the end of a word becomes `ς`, elsewhere `σ` (`endsWord`).

Main statements: on ASCII text lower-casing is the character-wise map `Char.toLower`
(`lowercase_of_ascii`), and it distributes over appending ASCII text
(`lowercase_append_of_ascii`).
-/
namespace ControlPlane.Text

/-- Whether a character lies in ASCII. -/
def isAscii (c : Char) : Bool :=
  decide (c.toNat < 0x80)

/-- Whether a character takes part in letter case. -/
def isCased (c : Char) : Bool :=
  if isAscii c then c.isAlpha else casedBeyondAscii.contains c

/-- The small letter of a character that has a single one, else the character itself. -/
def lowerSimple (c : Char) : Char :=
  if isAscii c then c.toLower
  else match capitalRuns.find? (·.covers c.toNat) with
    | some run => Char.ofNat (run.lower c.toNat)
    | none => c

/-- Whether the nearest character that counts as a neighbour is cased. -/
def nextIsCased (cs : List Char) : Bool :=
  match cs.dropWhile caseIgnorable.contains with
  | [] => false
  | c :: _ => isCased c

/-- Whether a sigma stands at the end of a word, given the reversed text before it and the text
after it. -/
def endsWord (before after : List Char) : Bool :=
  nextIsCased before && !nextIsCased after

/-- The lower-case form of one character between its neighbours. -/
def lowerAt (before : List Char) (c : Char) (after : List Char) : List Char :=
  if c = 'Σ' then [if endsWord before after then 'ς' else 'σ']
  else if c = 'İ' then ['i', '\u0307']
  else [lowerSimple c]

/-- Lower-casing of what follows the reversed text `before`. -/
def lowercaseFrom (before : List Char) : List Char → List Char
  | [] => []
  | c :: rest => lowerAt before c rest ++ lowercaseFrom (c :: before) rest

/-- Lower-case text. -/
def lowercase (cs : List Char) : List Char :=
  lowercaseFrom [] cs

/-- Lower-case text, as a string. -/
def lowercaseString (s : String) : String :=
  String.ofList (lowercase s.toList)

/-! ## ASCII -/

theorem isAscii_toLower {c : Char} (h : isAscii c = true) :
    isAscii c.toLower = true := by
  have hc : c.toNat < 0x80 := of_decide_eq_true h
  have : ∀ n : Fin 0x80, isAscii (Char.ofNat n.val).toLower = true := by decide
  have hn := this ⟨c.toNat, hc⟩
  rwa [Char.ofNat_toNat] at hn

theorem lowerSimple_of_ascii {c : Char} (h : isAscii c = true) : lowerSimple c = c.toLower := by
  simp [lowerSimple, h]

theorem lowerAt_of_ascii {c : Char} (h : isAscii c = true) (before after : List Char) :
    lowerAt before c after = [c.toLower] := by
  have hsigma : c ≠ 'Σ' := by rintro rfl; simp [isAscii] at h
  have hdotted : c ≠ 'İ' := by rintro rfl; simp [isAscii] at h
  simp [lowerAt, hsigma, hdotted, lowerSimple_of_ascii h]

theorem lowercaseFrom_of_ascii {cs : List Char} (h : ∀ c ∈ cs, isAscii c = true) :
    ∀ before, lowercaseFrom before cs = cs.map Char.toLower := by
  induction cs with
  | nil => intro before; rfl
  | cons c rest ih =>
    intro before
    have hc : isAscii c = true := h c (by simp)
    have hrest : ∀ d ∈ rest, isAscii d = true := fun d hd => h d (by simp [hd])
    simp [lowercaseFrom, lowerAt_of_ascii hc, ih hrest]

theorem lowercase_of_ascii {cs : List Char} (h : ∀ c ∈ cs, isAscii c = true) :
    lowercase cs = cs.map Char.toLower :=
  lowercaseFrom_of_ascii h []

theorem lowercase_append_of_ascii {cs ds : List Char} (hc : ∀ c ∈ cs, isAscii c = true)
    (hd : ∀ d ∈ ds, isAscii d = true) : lowercase (cs ++ ds) = lowercase cs ++ lowercase ds := by
  rw [lowercase_of_ascii hc, lowercase_of_ascii hd, lowercase_of_ascii, List.map_append]
  intro c hmem
  rcases List.mem_append.1 hmem with h | h
  · exact hc c h
  · exact hd c h

end ControlPlane.Text
