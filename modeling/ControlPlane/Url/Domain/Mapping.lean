import ControlPlane.Text.Lowercase
import ControlPlane.Text.Pieces
import ControlPlane.Url.Domain.Characters
import ControlPlane.Url.Domain.Replacements

/-!
# Mapping of domain names

A domain name may be written in many ways. Before it is compared, capitals become small letters,
variants of a letter become the letter, some characters are dropped, and a character that no domain
name may hold is refused: the mapping step of UTS #46.

Main statement: `mapped?_of_ascii` — all of this is lower-casing on ASCII text.
-/
namespace ControlPlane.Url.Domain

/-- The text that a run lists for a code point. -/
def ReplacementRun.text? (run : ReplacementRun) (point : Nat) : Option (List Char) :=
  (Text.splitAt ' ' run.texts.toList)[point - run.first]?

/-- The text that the list of replacements holds for a character. -/
def listedReplacement? (c : Char) : Option (List Char) :=
  let before := replacementRuns.takeWhile fun run => decide (run.first ≤ c.toNat)
  before.getLast?.bind (·.text? c.toNat)

/-- What stands for a character in the compared form; none for a character that is refused. -/
def replacement? (c : Char) : Option (List Char) :=
  if Text.isAscii c then some [c.toLower]
  else if !permittedBeyondAscii.contains c then none
  else if dropped.contains c then some []
  else some ((listedReplacement? c).getD [Text.lowerSimple c])

/-- Whether a character stands for itself. -/
def isKept (c : Char) : Bool :=
  replacement? c == some [c]

/-- A text with all of its characters replaced. -/
def mapped? (cs : List Char) : Option (List Char) :=
  (cs.mapM replacement?).map List.flatten

theorem replacement?_of_ascii {c : Char} (h : Text.isAscii c = true) :
    replacement? c = some [c.toLower] := by
  simp [replacement?, h]

theorem mapped?_of_ascii {cs : List Char} (h : ∀ c ∈ cs, Text.isAscii c = true) :
    mapped? cs = some (cs.map Char.toLower) := by
  unfold mapped?
  induction cs with
  | nil => rfl
  | cons c rest ih =>
    have hrest := ih fun d hd => h d (by simp [hd])
    obtain ⟨texts, htexts, hflat⟩ := Option.map_eq_some_iff.1 hrest
    rw [List.mapM_cons, replacement?_of_ascii (h c (by simp)), htexts]
    simp [hflat]

end ControlPlane.Url.Domain
