import ControlPlane.Text.JoiningTypes
import ControlPlane.Text.PictureCharacters
import ControlPlane.Text.WideCharacters

/-!
# Display width

How many columns a line of text fills when it is shown with a fixed pitch. Most characters fill
one column, East Asian ones two, combining ones none. Some characters are shown as one: pictures
that are joined, toned or selected fill two columns together, and some scripts have letters that
melt into one.

A line is measured from its end: what a character adds depends on how the text after it starts
(`Following`), and `step` gives the columns it adds and how the text starts with it. What is added
may be negative, when a character joins two others that have been counted already.

Main statement: `width_of_printable` — a text of printable ASCII characters is as wide as it is
long.
-/
namespace ControlPlane.Text

/-! ## What the text after a character starts with -/

/-- Letters that may melt into one with the letters before them. -/
inductive MeltingLetter where
  | hebrewLamed
  | khmerConsonant
  | bugineseYa
  | bugineseVowelAndYa
  | tifinaghConsonant
  | tifinaghJoinedConsonant
  | lisuToneLetter
  | turkicI
  | kiratE
  | kiratAi
  deriving DecidableEq, Repr

/-- Parts of a picture, after which a joiner and another picture come. -/
inductive JoinedPart where
  | nothing
  | keycap
  | oneIndicator
  | evenIndicators
  | oddIndicators
  | tags (count : Nat)
  deriving DecidableEq, Repr

/-- What a text starts with, as far as it matters to the character before it. -/
inductive Lead where
  | other
  | lineFeed
  | picture
  | skinTone
  | indicator (several : Bool)
  | joined (part : JoinedPart)
  | arabicAlef
  | melting (letter : MeltingLetter) (joined : Bool)
  deriving DecidableEq, Repr

/-- Characters that choose among the shapes of the character before them. -/
inductive Selector where
  | picture
  | text
  | wide
  deriving DecidableEq, Repr

/-- How a text starts: perhaps with a selector, then with something that matters or not. -/
structure Following where
  lead : Lead
  selector : Option Selector
  deriving DecidableEq, Repr

/-- A start that does not matter. -/
def Following.plain : Following := ⟨.other, none⟩

/-- Whether a lead is a letter that may melt. -/
def Lead.isMelting : Lead → Bool
  | .melting _ _ => true
  | _ => false

/-- Whether a lead is a part of a picture that is joined. -/
def Lead.isJoined : Lead → Bool
  | .joined _ => true
  | _ => false

/-! ## Characters -/

/-- Joins what is before it with what is after it. -/
def joiner : Char := '\u200d'

/-- Asks for the character before it to be shown as a picture. -/
def pictureSelector : Char := '\ufe0f'

/-- Asks for the character before it to be shown as text. -/
def textSelector : Char := '\ufe0e'

/-- Asks for the quotation mark before it to be shown wide. -/
def wideSelector : Char := '\ufe01'

/-- The mark that makes a key of the character before it. -/
def keycap : Char := '\u20e3'

/-- Joins two consonants of Tifinagh. -/
def tifinaghJoiner : Char := '\u2d7f'

/-- Whether a character lies between two code points. -/
def isBetween (low high : Nat) (c : Char) : Bool :=
  decide (low ≤ c.toNat) && decide (c.toNat ≤ high)

/-- Whether a character is a letter of a country code. -/
def isIndicator (c : Char) : Bool := isBetween 0x1F1E6 0x1F1FF c

/-- Whether a character gives a picture a skin tone. -/
def isSkinTone (c : Char) : Bool := isBetween 0x1F3FB 0x1F3FF c

/-- Whether a character is an invisible letter or digit of a flag. -/
def isTag (c : Char) : Bool := isBetween 0xE0061 0xE007A c || isBetween 0xE0030 0xE0039 c

/-- Whether a character ends the invisible letters of a flag. -/
def isTagEnd (c : Char) : Bool := c.toNat == 0xE007F

/-- Whether a character is the flag that invisible letters follow. -/
def isTaggedFlag (c : Char) : Bool := c.toNat == 0x1F3F4

/-- Whether a character is a quotation mark with a wide shape. -/
def isSelectableQuote (c : Char) : Bool :=
  ['\u2018', '\u2019', '\u201c', '\u201d'].contains c

/-- Whether a character is a mark that does not come between letters that melt. -/
def isUnseenMark (c : Char) : Bool :=
  isBetween 0xFE00 0xFE0F c || isBetween 0xE0100 0xE01EF c || isBetween 0x180B 0x180D c ||
    isBetween 0x17B4 0x17B5 c || c.toNat == 0x34F || c.toNat == 0x180F

/-- Whether a character is the Arabic letter lam in one of its forms. -/
def isArabicLam (c : Char) : Bool :=
  isBetween 0x6B5 0x6B8 c || [0x644, 0x76A, 0x8A6, 0x8C7].contains c.toNat

/-- Whether a character is the Arabic letter alef in one of its forms. -/
def isArabicAlef (c : Char) : Bool :=
  isBetween 0x671 0x673 c || isBetween 0x773 0x774 c || isBetween 0x870 0x882 c ||
    [0x622, 0x623, 0x625, 0x627, 0x675].contains c.toNat

/-- Whether a consonant of Khmer has a form to be put below another. -/
def isKhmerConsonant (c : Char) : Bool :=
  isBetween 0x1780 0x1782 c || isBetween 0x1784 0x1787 c || isBetween 0x1789 0x178C c ||
    isBetween 0x178E 0x1793 c || isBetween 0x1795 0x1798 c || isBetween 0x179B 0x179D c ||
    [0x17A0, 0x17A2, 0x17A7, 0x17AB, 0x17AC, 0x17AF].contains c.toNat

/-- Whether a character is a consonant of Tifinagh. -/
def isTifinaghConsonant (c : Char) : Bool :=
  isBetween 0x2D31 0x2D65 c || c.toNat == 0x2D6F

/-- The columns of a character that stands for itself. -/
def ownColumns (c : Char) : Nat :=
  let n := c.toNat
  if n < 0x7F then 1
  else if n == 0x17A4 then 2
  else if n == 0x17D8 then 3
  else if weightlessCharacters.contains c then 0
  else if wideCharacters.contains c then 2
  else 1

/-- The letter that a character is, if it may melt into one with letters before it. -/
def meltingLetter? (c : Char) : Option MeltingLetter :=
  if c == '\u05dc' then some .hebrewLamed
  else if isKhmerConsonant c then some .khmerConsonant
  else if c == '\u1a10' then some .bugineseYa
  else if isTifinaghConsonant c then some .tifinaghConsonant
  else if isBetween 0xA4FC 0xA4FD c then some .lisuToneLetter
  else if c.toNat == 0x10C03 then some .turkicI
  else if c.toNat == 0x16D67 then some .kiratE
  else if c.toNat == 0x16D68 then some .kiratAi
  else none

/-- What a character is to the one before it. -/
def ownLead (c : Char) : Lead :=
  match meltingLetter? c with
  | some letter => .melting letter false
  | none =>
    if isArabicAlef c then .arabicAlef
    else if isIndicator c then .indicator false
    else if isSkinTone c then .skinTone
    else if pictureCharacters.contains c then .picture
    else .other

/-- What a character selects. -/
def ownSelector? (c : Char) : Option Selector :=
  if c = wideSelector then some .wide else none

/-! ## Characters that melt into one -/

/-- What a character adds before a letter that it melts with, and how the text then starts. -/
def meltWith? (letter : MeltingLetter) (joined : Bool) (c : Char) : Option (Int × Lead) :=
  match letter with
  | .hebrewLamed => if joined && c == '\u05d0' then some (0, .other) else none
  | .khmerConsonant => if c == '\u17d2' then some (-1, .other) else none
  | .bugineseYa =>
    if joined && c == '\u1a17' then some (0, .melting .bugineseVowelAndYa false) else none
  | .bugineseVowelAndYa => if c == '\u1a15' then some (0, .other) else none
  | .tifinaghConsonant =>
    if c = tifinaghJoiner then some (1, .melting .tifinaghJoinedConsonant false)
    else if joined && isTifinaghConsonant c then some (0, .other)
    else none
  | .tifinaghJoinedConsonant => if isTifinaghConsonant c then some (-1, .other) else none
  | .lisuToneLetter => if isBetween 0xA4F8 0xA4FB c then some (0, .other) else none
  | .turkicI => if joined && c.toNat == 0x10C32 then some (0, .other) else none
  | .kiratE =>
    if c.toNat == 0x16D63 || c.toNat == 0x16D69 then some (0, .other)
    else if c.toNat == 0x16D67 then some (0, .melting .kiratAi false)
    else if c.toNat == 0x16D68 then some (1, .melting .kiratE false)
    else none
  | .kiratAi => if c.toNat == 0x16D63 then some (0, .other) else none

/-- What a character adds before a joiner and a picture, and how the text then starts. -/
def joinPicture? (part : JoinedPart) (c : Char) : Option (Int × Lead) :=
  match part with
  | .nothing =>
    if c = keycap then some (0, .joined .keycap)
    else if isIndicator c then some (1, .joined .oneIndicator)
    else if isSkinTone c then some (0, .skinTone)
    else if isTagEnd c then some (0, .joined (.tags 0))
    else if pictureCharacters.contains c then some (0, .picture)
    else none
  | .keycap => none
  | .oneIndicator | .oddIndicators =>
    if isIndicator c then some (-1, .joined .evenIndicators) else none
  | .evenIndicators =>
    if isIndicator c then some (3, .joined .oddIndicators)
    else if c = joiner then some (0, .joined .nothing)
    else none
  | .tags count =>
    if isTag c then some (0, .joined (.tags (count + 1)))
    else if isTaggedFlag c && decide (3 ≤ count) && decide (count ≤ 6) then some (0, .picture)
    else none

/-- What a character adds if it is shown as one with what comes next, and how the text then
starts. -/
def joinWith? (next : Lead) (c : Char) : Option (Int × Lead) :=
  match next with
  | .other | .lineFeed => none
  | .picture | .indicator true =>
    if c = joiner then some (0, .joined .nothing)
    else if next = .indicator true && isIndicator c then some (1, .indicator true)
    else none
  | .indicator false => if isIndicator c then some (1, .indicator true) else none
  | .skinTone =>
    if c = joiner then some (0, .joined .nothing)
    else if skinToneBases.contains c then some (0, .picture)
    else none
  | .joined part => joinPicture? part c
  | .arabicAlef =>
    if isArabicLam c then some (0, .other)
    else if joiningTransparent.contains c && ownColumns c == 0 then some (0, .arabicAlef)
    else none
  | .melting letter joined =>
    if c = joiner then some (0, .melting letter true)
    else if isUnseenMark c then some (0, .melting letter joined)
    else meltWith? letter joined c

/-! ## Lines -/

/-- What is left of a start whose selector did not fit. -/
def Following.unselected (next : Following) : Lead :=
  if next.selector.isNone || next.lead.isMelting then next.lead else .other

/-- The columns that a character beyond ASCII adds, and how the text then starts. -/
def stepBeyondAscii (c : Char) (next : Following) : Int × Following :=
  if c = pictureSelector then
    (0, ⟨if next.lead.isMelting || next.lead.isJoined then next.lead else .other, some .picture⟩)
  else if c = textSelector then
    (0, ⟨if next.lead.isMelting then next.lead else .other, some .text⟩)
  else if next.selector = some .text && textualPictures.contains c then (1, .plain)
  else if next.selector = some .wide && isSelectableQuote c then (2, .plain)
  else
    match joinWith? next.unselected c with
    | some (columns, lead) => (columns, ⟨lead, none⟩)
    | none => (ownColumns c, ⟨ownLead c, ownSelector? c⟩)

/-- The columns that a character adds, and how the text then starts. -/
def step (c : Char) (next : Following) : Int × Following :=
  if next.selector = some .picture && selectableCharacters.contains c then
    (if next.lead.isJoined then 0 else 2, ⟨.picture, none⟩)
  else if c = '\n' then (1, ⟨.lineFeed, none⟩)
  else if c = '\r' && next.lead = .lineFeed then (0, .plain)
  else if c.toNat ≤ 0xA0 then (1, .plain)
  else stepBeyondAscii c next

/-- The columns of a text, and how it starts. -/
def measure : List Char → Int × Following
  | [] => (0, .plain)
  | c :: rest =>
    let (columns, next) := measure rest
    let (added, next) := step c next
    (columns + added, next)

/-- The columns of a line. -/
def width (cs : List Char) : Nat :=
  (measure cs).1.toNat

/-! ## ASCII -/

/-- Whether a character of ASCII can be seen, or is the blank. -/
def isPrintableAscii (c : Char) : Bool :=
  isBetween 0x20 0x7E c

theorem step_of_printable {c : Char} (h : isPrintableAscii c = true) :
    step c .plain = (1, .plain) := by
  simp only [isPrintableAscii, isBetween, Bool.and_eq_true, decide_eq_true_eq] at h
  have hfeed : c ≠ '\n' := by rintro rfl; revert h; decide
  have hreturn : c ≠ '\r' := by rintro rfl; revert h; decide
  have hlow : c.toNat ≤ 0xA0 := by omega
  simp [step, Following.plain, hfeed, hreturn, hlow]

theorem measure_of_printable {cs : List Char} (h : ∀ c ∈ cs, isPrintableAscii c = true) :
    measure cs = ((cs.length : Int), .plain) := by
  induction cs with
  | nil => rfl
  | cons c rest ih =>
    simp only [measure, ih fun d hd => h d (by simp [hd]), step_of_printable (h c (by simp)),
      List.length_cons, Int.natCast_add]
    rfl

theorem width_of_printable {cs : List Char} (h : ∀ c ∈ cs, isPrintableAscii c = true) :
    width cs = cs.length := by
  simp [width, measure_of_printable h]

end ControlPlane.Text
