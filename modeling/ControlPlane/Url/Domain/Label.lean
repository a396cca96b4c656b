import ControlPlane.Text.Composed
import ControlPlane.Text.SpacingMarks
import ControlPlane.Url.Domain.Mapping
import ControlPlane.Url.Domain.Punycode

/-!
# Labels of domain names

A label is a part of a domain name between dots. It has two forms: its characters, and, if not all
of them are ASCII, the encoded form that servers of names know, which starts with `xn--`.
`readLabel?` gives the characters of either form, `writeLabel` the form for servers, and
`isWellFormed` says which characters a label may consist of.

Main statements: what is written is ASCII (`isAscii_of_mem_writeLabel`), and a label of ASCII
characters that is not encoded is well-formed and its own form (`readLabel?_of_ascii`,
`isWellFormed_of_ascii`, `writeLabel_of_ascii`).
-/
namespace ControlPlane.Url.Domain

/-! ## The encoded form -/

/-- How an encoded label starts. -/
def encodedStart : List Char := ['x', 'n', '-', '-']

/-- The most characters of a label beyond ASCII. -/
def longestLabel : Nat := 1000

/-- The most characters of the encoded part of a label. -/
def longestCode : Nat := 2000

/-- Whether a text is one that gets encoded: in its compared form, and not ASCII. -/
def isEncodable (label : List Char) : Bool :=
  !label.all Text.isAscii && label.all isKept && Text.composed label == label &&
    !encodedStart.isPrefixOf label

/-- The characters of a label, which may be given in its encoded form. -/
def readLabel? (label : List Char) : Option (List Char) :=
  if encodedStart.isPrefixOf label then
    let code := label.drop encodedStart.length
    if label.all Text.isAscii && decide (code.length ≤ longestCode) then
      (Punycode.decode code).filter isEncodable
    else none
  else some label

/-- A label in the form that servers of names know. -/
def writeLabel (label : List Char) : List Char :=
  if label.all Text.isAscii then label else encodedStart ++ Punycode.encode label

/-! ## Joiners -/

/-- Whether the nearest character that joining does not pass over joins in the given way. -/
def nextJoins (joining : Text.CodePointSet) (cs : List Char) : Bool :=
  (cs.dropWhile Text.joiningTransparent.contains).head?.any joining.contains

/-- Whether a text, given reversed, ends with a mark that takes the vowel off a letter. -/
def endsVowelless (before : List Char) : Bool :=
  before.head?.any fun c => Text.combiningClass c == 9

/-- Whether a character may stand between the reversed text before it and the text after it.
A joiner may do so behind a vowelless letter, where it tells how to write the letter; a non-joiner
also between letters that would be joined without it. -/
def fitsBetween (before : List Char) (c : Char) (after : List Char) : Bool :=
  if c = '\u200d' then endsVowelless before
  else if c = '\u200c' then
    endsVowelless before ||
      (nextJoins Text.joinsAfter before && nextJoins Text.joinsBefore after)
  else true

/-- Whether all joiners that follow the reversed text `before` stand where they may. -/
def joinersFit (before : List Char) : List Char → Bool
  | [] => true
  | c :: rest => fitsBetween before c rest && joinersFit (c :: before) rest

/-! ## Well-formed labels -/

/-- Whether a label, given by its characters, is one: no mark comes first, joiners stand where
they change something, and it is not too long. -/
def isWellFormed (label : List Char) : Bool :=
  !label.head?.any Text.isMark && joinersFit [] label &&
    (label.all Text.isAscii || decide (label.length ≤ longestLabel))

/-! ## ASCII -/

theorem isAscii_of_mem_writeLabel {label : List Char} {c : Char} (h : c ∈ writeLabel label) :
    Text.isAscii c = true := by
  unfold writeLabel at h
  split at h
  · rename_i hall
    exact List.all_eq_true.1 hall c h
  · rcases List.mem_append.1 h with h | h
    · have hstart : encodedStart.all Text.isAscii = true := rfl
      exact List.all_eq_true.1 hstart c h
    · exact Punycode.isAscii_of_mem_encode h

theorem writeLabel_of_ascii {label : List Char} (h : ∀ c ∈ label, Text.isAscii c = true) :
    writeLabel label = label := by
  simp [writeLabel, List.all_eq_true.2 h]

theorem readLabel?_of_ascii {label : List Char} (h : encodedStart.isPrefixOf label = false) :
    readLabel? label = some label := by
  simp [readLabel?, h]

theorem isMark_of_ascii {c : Char} (h : Text.isAscii c = true) : Text.isMark c = false := by
  have hc : c.toNat < 0x80 := of_decide_eq_true h
  have hjoining : Text.joiningTransparent.contains c = false :=
    Text.CodePointSet.contains_eq_false_of_lt rfl (by omega : c.toNat < 0xAD)
  have hspacing : Text.spacingMarks.contains c = false :=
    Text.CodePointSet.contains_eq_false_of_lt rfl (by omega : c.toNat < 0x903)
  simp [Text.isMark, Text.isNonspacingMark, hjoining, hspacing]

theorem joinersFit_of_ascii {label : List Char} (h : ∀ c ∈ label, Text.isAscii c = true)
    (before : List Char) : joinersFit before label = true := by
  induction label generalizing before with
  | nil => rfl
  | cons c rest ih =>
    have hc := h c (by simp)
    have hjoiner : c ≠ '\u200d' := by rintro rfl; simp [Text.isAscii] at hc
    have hnonjoiner : c ≠ '\u200c' := by rintro rfl; simp [Text.isAscii] at hc
    simp [joinersFit, fitsBetween, hjoiner, hnonjoiner, ih fun d hd => h d (by simp [hd])]

theorem isWellFormed_of_ascii {label : List Char} (h : ∀ c ∈ label, Text.isAscii c = true) :
    isWellFormed label = true := by
  have hmark : label.head?.any Text.isMark = false := by
    cases label with
    | nil => rfl
    | cons c rest => simp [isMark_of_ascii (h c (by simp))]
  simp [isWellFormed, hmark, joinersFit_of_ascii h, List.all_eq_true.2 h]

end ControlPlane.Url.Domain
