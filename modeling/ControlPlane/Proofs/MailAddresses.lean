import ControlPlane.Proofs.FindOrCreate
import ControlPlane.Proofs.PercentCode
import Mathlib.Data.List.DropRight

/-!
# Mail addresses of accounts

The mail address of an account that is created names its domain: `test-`, six letters drawn at
random, `@`, a label and `.test` (`HasForm`). The label is what lower-casing leaves of the domain's
name if every character but small letters and digits of ASCII is made a dash, and the dashes at
either end are taken away (`IsTrimmed`).

Nothing is left of a name without a character that gives such a letter or digit (`GivesPlain`); of
the characters beyond ASCII only the Kelvin sign and the dotted capital `İ` do. The address of such
a name has no label.

Main statement: a mail address is well-formed if and only if the domain's name has a character that
gives a plain one (`mailAddress_isWellFormed_iff`).
-/

namespace ControlPlane

/-! ## Lower-casing and plain characters -/

namespace Text

/-- A small letter or a digit of ASCII. -/
def IsPlain (c : Char) : Prop :=
  ('a' ≤ c ∧ c ≤ 'z') ∨ ('0' ≤ c ∧ c ≤ '9')

instance (c : Char) : Decidable (IsPlain c) :=
  inferInstanceAs (Decidable (_ ∨ _))

/-- A character whose lower-case form has a letter or a digit of ASCII. -/
def GivesPlain (c : Char) : Prop :=
  c.isAlphanum = true ∨ c = '\u212A' ∨ c = 'İ'

instance (c : Char) : Decidable (GivesPlain c) :=
  inferInstanceAs (Decidable (_ ∨ _))

theorem isAscii_of_isAlphanum {c : Char} (h : c.isAlphanum = true) : isAscii c = true := by
  have hranges : ((decide ('A'.val ≤ c.val ∧ c.val ≤ 'Z'.val) ||
      (decide ('a'.val ≤ c.val) && decide (c.val ≤ 'z'.val))) ||
        (decide ('0'.val ≤ c.val) && decide (c.val ≤ '9'.val))) = true := h
  simp only [Bool.or_eq_true, Bool.and_eq_true, decide_eq_true_eq, UInt32.le_iff_toNat_le]
    at hranges
  rw [isAscii, decide_eq_true_iff, Char.toNat]
  have hz : 'z'.val.toNat = 122 := rfl
  have hcapital : 'Z'.val.toNat = 90 := rfl
  have hnine : '9'.val.toNat = 57 := rfl
  omega

/-- Within ASCII, letters and digits become plain, and no other character does. -/
theorem isAlphanum_toLower {c : Char} (hascii : isAscii c = true) :
    c.toLower.isAlphanum = c.isAlphanum ∧ (c.toLower.isAlphanum = true → IsPlain c.toLower) :=
  Url.forall_ascii (P := fun c => c.toLower.isAlphanum = c.isAlphanum ∧
    (c.toLower.isAlphanum = true → IsPlain c.toLower)) (by decide) (of_decide_eq_true hascii)

theorem not_isAlphanum_ofNat {n : Nat} (h : 0x80 ≤ n) : (Char.ofNat n).isAlphanum = false := by
  rw [← Bool.not_eq_true]
  intro halnum
  have hlt : (Char.ofNat n).toNat < 0x80 := of_decide_eq_true (isAscii_of_isAlphanum halnum)
  by_cases hvalid : n.isValidChar
  · rw [Char.ofNat, dif_pos hvalid] at hlt
    exact Nat.not_lt.2 h hlt
  · rw [Char.ofNat, dif_neg hvalid] at halnum
    exact absurd halnum (by decide)

/-- Of the capitals beyond ASCII, only the Kelvin sign has a small letter in ASCII. -/
theorem kelvin_or_ge_of_mem_capitalRuns {run : CapitalRun} (h : run ∈ capitalRuns) :
    (run.first = 0x212A ∧ run.last = 0x212A) ∨ 0x80 ≤ (run.first : Int) + run.shift := by
  have htable : ∀ run ∈ capitalRuns,
      (run.first = 0x212A ∧ run.last = 0x212A) ∨ 0x80 ≤ (run.first : Int) + run.shift := by
    decide +kernel
  exact htable run h

/-- A character beyond ASCII stays beyond it, unless it is the Kelvin sign. -/
theorem eq_kelvin_of_isAlphanum_lowerSimple {c : Char} (hascii : isAscii c = false)
    (h : (lowerSimple c).isAlphanum = true) : c = '\u212A' := by
  rw [lowerSimple, if_neg (by simp [hascii])] at h
  split at h
  · rename_i run hfind
    have hcovers : run.covers c.toNat = true := by simpa using List.find?_some hfind
    simp only [CapitalRun.covers, Bool.and_eq_true, decide_eq_true_eq] at hcovers
    obtain ⟨⟨hfirst, hlast⟩, -⟩ := hcovers
    rcases kelvin_or_ge_of_mem_capitalRuns (List.mem_of_find?_eq_some hfind) with hkelvin | hge
    · rw [hkelvin.1] at hfirst
      rw [hkelvin.2] at hlast
      exact Char.ext (UInt32.toNat_inj.1 (Nat.le_antisymm hlast hfirst))
    · have hlower : 0x80 ≤ run.lower c.toNat := by
        simp only [CapitalRun.lower, Int.ofNat_eq_natCast]
        omega
      exact absurd (h.symm.trans (not_isAlphanum_ofNat hlower)) (by simp)
  · exact absurd (hascii.symm.trans (isAscii_of_isAlphanum h)) (by simp)

/-- A letter or digit of ASCII in the lower-case form of a character is plain. -/
theorem isPlain_of_mem_lowerAt {before after : List Char} {c d : Char}
    (h : d ∈ lowerAt before c after) (hd : d.isAlphanum = true) : IsPlain d ∧ GivesPlain c := by
  rw [lowerAt] at h
  split at h
  · -- either form of the small sigma is beyond ASCII
    rw [List.mem_singleton] at h
    split at h
    · exact absurd (h ▸ hd) (by decide)
    · exact absurd (h ▸ hd) (by decide)
  · split at h
    · rename_i hdotted
      rcases List.mem_pair.1 h with rfl | rfl
      · exact ⟨by decide, .inr (.inr hdotted)⟩
      · exact absurd hd (by decide)
    · obtain rfl := List.mem_singleton.1 h
      cases hascii : isAscii c with
      | true =>
        obtain ⟨hsame, hplain⟩ := isAlphanum_toLower hascii
        rw [lowerSimple_of_ascii hascii] at hd ⊢
        exact ⟨hplain hd, .inl (hsame ▸ hd)⟩
      | false =>
        obtain rfl := eq_kelvin_of_isAlphanum_lowerSimple hascii hd
        exact ⟨by decide +kernel, .inr (.inl rfl)⟩

theorem exists_isAlphanum_lowerAt {c : Char} (h : GivesPlain c) (before after : List Char) :
    ∃ d ∈ lowerAt before c after, d.isAlphanum = true := by
  rcases h with halnum | rfl | rfl
  · have hascii := isAscii_of_isAlphanum halnum
    rw [lowerAt_of_ascii hascii]
    exact ⟨c.toLower, List.mem_singleton_self _, (isAlphanum_toLower hascii).1.trans halnum⟩
  · have hkelvin : lowerSimple '\u212A' = 'k' := by decide +kernel
    exact ⟨'k', hkelvin ▸ List.mem_singleton_self _, by decide⟩
  · exact ⟨'i', List.mem_cons_self, by decide⟩

/-- Every letter or digit of ASCII in lower-case text is plain, and comes from a character that
gives one. -/
theorem exists_of_mem_lowercaseFrom {before cs : List Char} {d : Char}
    (h : d ∈ lowercaseFrom before cs) (hd : d.isAlphanum = true) :
    IsPlain d ∧ ∃ c ∈ cs, GivesPlain c := by
  induction cs generalizing before with
  | nil => exact absurd h List.not_mem_nil
  | cons c cs ih =>
    rcases List.mem_append.1 h with hfirst | hrest
    · obtain ⟨hplain, hgives⟩ := isPlain_of_mem_lowerAt hfirst hd
      exact ⟨hplain, c, List.mem_cons_self, hgives⟩
    · obtain ⟨hplain, other, hmem, hgives⟩ := ih hrest
      exact ⟨hplain, other, List.mem_cons_of_mem _ hmem, hgives⟩

theorem exists_isAlphanum_lowercaseFrom {cs : List Char} (h : ∃ c ∈ cs, GivesPlain c)
    (before : List Char) : ∃ d ∈ lowercaseFrom before cs, d.isAlphanum = true := by
  induction cs generalizing before with
  | nil => simp at h
  | cons c cs ih =>
    rw [List.exists_mem_cons_iff] at h
    rcases h with hgives | hrest
    · obtain ⟨d, hmem, hd⟩ := exists_isAlphanum_lowerAt hgives before cs
      exact ⟨d, List.mem_append_left _ hmem, hd⟩
    · obtain ⟨d, hmem, hd⟩ := ih hrest (c :: before)
      exact ⟨d, List.mem_append_right _ hmem, hd⟩

end Text

namespace Provisioning

open Text Connection

/-! ## Labels -/

/-- Text of plain characters and dashes, with no dash at either end. -/
structure IsTrimmed (label : List Char) : Prop where
  chars : ∀ c ∈ label, IsPlain c ∨ c = '-'
  head : label.head? ≠ some '-'
  last : label.getLast? ≠ some '-'

/-- Of the ends of a text, no dash is left. -/
theorem ends_trimDashes (cs : List Char) :
    (trimDashes cs).head? ≠ some '-' ∧ (trimDashes cs).getLast? ≠ some '-' := by
  have htrim : trimDashes cs = (cs.dropWhile (· == '-')).rdropWhile (· == '-') := rfl
  rw [htrim]
  constructor
  · intro hhead
    have hprefix := List.rdropWhile_prefix (· == '-') (cs.dropWhile (· == '-'))
    have hdropped : (cs.dropWhile (· == '-')).head? = some '-' := by
      obtain ⟨rest, hrest⟩ := hprefix
      rw [← hrest, List.head?_append, hhead]
      rfl
    have hnot := List.head?_dropWhile_not (· == '-') cs
    rw [hdropped] at hnot
    simp at hnot
  · intro hlast
    obtain ⟨hne, hdash⟩ := List.mem_getLast?_eq_getLast hlast
    exact List.rdropWhile_last_not _ _ hne (by rw [← hdash]; rfl)

theorem trimDashes_eq_nil_iff {cs : List Char} : trimDashes cs = [] ↔ ∀ c ∈ cs, c = '-' := by
  have htrim : trimDashes cs = (cs.dropWhile (· == '-')).rdropWhile (· == '-') := rfl
  rw [htrim, List.rdropWhile_eq_nil_iff]
  constructor
  · intro h
    have hdropped : cs.dropWhile (· == '-') = [] := by
      cases hrest : cs.dropWhile (· == '-') with
      | nil => rfl
      | cons c rest =>
        have hnot := List.head?_dropWhile_not (· == '-') cs
        rw [hrest] at h hnot
        simpa using (h c List.mem_cons_self).symm.trans hnot
    simpa using List.dropWhile_eq_nil_iff.1 hdropped
  · intro h c hc
    simpa using h c ((List.dropWhile_sublist _).mem hc)

theorem labelChar_eq_dash_iff {c : Char} : labelChar c = '-' ↔ c.isAlphanum = false := by
  rw [labelChar]
  split
  · rename_i halnum
    refine ⟨?_, fun h => absurd (halnum.symm.trans h) (by simp)⟩
    rintro rfl
    exact absurd halnum (by decide)
  · rename_i hother
    exact ⟨fun _ => Bool.not_eq_true _ ▸ hother, fun _ => rfl⟩

theorem isTrimmed_label (domainName : String) : IsTrimmed (label domainName) where
  chars := by
    intro c hc
    obtain ⟨d, hd, rfl⟩ := List.mem_map.1 (mem_trimDashes hc)
    rw [labelChar]
    split
    · rename_i halnum
      exact .inl (exists_of_mem_lowercaseFrom hd halnum).1
    · exact .inr rfl
  head := (ends_trimDashes _).1
  last := (ends_trimDashes _).2

/-- Nothing is left of a name in which no character gives a plain one. -/
theorem label_eq_nil_iff {domainName : String} :
    label domainName = [] ↔ ∀ c ∈ domainName.toList, ¬ GivesPlain c := by
  simp only [label, trimDashes_eq_nil_iff, List.forall_mem_map, labelChar_eq_dash_iff]
  constructor
  · intro h c hc hgives
    obtain ⟨d, hd, halnum⟩ := exists_isAlphanum_lowercaseFrom ⟨c, hc, hgives⟩ []
    exact absurd ((h d hd).symm.trans halnum) (by simp)
  · intro h d hd
    rw [← Bool.not_eq_true]
    intro halnum
    obtain ⟨-, c, hc, hgives⟩ := exists_of_mem_lowercaseFrom hd halnum
    exact h c hc hgives

/-! ## Addresses -/

/-- An address has six plain characters and this label. -/
def HasForm (address : String) (label : List Char) : Prop :=
  ∃ random : List Char, random.length = 6 ∧ (∀ c ∈ random, IsPlain c) ∧
    address = String.ofList ("test-".toList ++ random ++ ['@'] ++ label ++ ".test".toList)

/-- An address has a label that can stand in the name of a host. -/
def IsWellFormed (address : String) : Prop :=
  ∃ label, HasForm address label ∧ IsTrimmed label ∧ label ≠ []

theorem label_unique {address : String} {label other : List Char} (h : HasForm address label)
    (hother : HasForm address other) : label = other := by
  obtain ⟨random, hlength, -, rfl⟩ := h
  obtain ⟨random', hlength', -, heq⟩ := hother
  have hlists := List.append_cancel_right (String.ofList_injective heq)
  exact List.append_inj_right hlists (by simp [hlength, hlength'])

/-- Lower-casing makes every letter that can be drawn plain. -/
theorem isPlain_of_mem_lowercase_letters {draws : List (Fin 62)} :
    (lowercase (draws.map Dialogue.letter)).length = draws.length ∧
      ∀ c ∈ lowercase (draws.map Dialogue.letter), IsPlain c := by
  have htable : ∀ n : Fin 62, isAscii (Dialogue.letter n) = true ∧
      IsPlain (Dialogue.letter n).toLower := by
    decide +kernel
  have hascii : ∀ c ∈ draws.map Dialogue.letter, isAscii c = true := by
    simp [htable]
  rw [lowercase_of_ascii hascii]
  exact ⟨by simp, by simp [htable]⟩

theorem hasForm_mailAddress (domainName : String) {draws : List (Fin 62)} (h : draws.length = 6) :
    HasForm (mailAddress domainName (draws.map Dialogue.letter)) (label domainName) := by
  obtain ⟨hlength, hplain⟩ := @isPlain_of_mem_lowercase_letters draws
  exact ⟨_, hlength.trans h, hplain, rfl⟩

theorem isWellFormed_mailAddress_iff (domainName : String) {draws : List (Fin 62)}
    (h : draws.length = 6) :
    IsWellFormed (mailAddress domainName (draws.map Dialogue.letter)) ↔
      ∃ c ∈ domainName.toList, GivesPlain c := by
  have hform := hasForm_mailAddress domainName h
  have hempty : label domainName ≠ [] ↔ ∃ c ∈ domainName.toList, GivesPlain c := by
    rw [ne_eq, label_eq_nil_iff]
    push Not
    rfl
  rw [← hempty]
  constructor
  · rintro ⟨other, hother, -, hne⟩
    rwa [label_unique hform hother]
  · intro hne
    exact ⟨label domainName, hform, isTrimmed_label domainName, hne⟩

/-- Whatever is drawn, the address of an account is well-formed if and only if the name of its
domain has a character that gives a plain one; otherwise only its label is missing. Every account
that is created in a domain for want of one gets such an address. -/
theorem mailAddress_isWellFormed_iff (domainName : String) {draws : List (Fin 62)}
    (h : draws.length = 6) :
    (IsWellFormed (mailAddress domainName (draws.map Dialogue.letter)) ↔
      ∃ c ∈ domainName.toList, GivesPlain c) ∧
    ((∀ c ∈ domainName.toList, ¬ GivesPlain c) →
      HasForm (mailAddress domainName (draws.map Dialogue.letter)) []) ∧
    ∀ (client : Client) (name : String) (domain : Domain) (accountType : AccountType),
      client.connection.KeepsTo (ensureAccount client name domain accountType)
        (client.connection.findsOrCreates (accountQuery name domain.id)
          (fun account => account.name == name) fun creation =>
            ∃ new : NewAccount, creation = new.call ∧
              (IsWellFormed new.email ↔ ∃ c ∈ domain.name.toList, GivesPlain c)) := by
  refine ⟨isWellFormed_mailAddress_iff domainName h, ?_, ?_⟩
  · intro hnone
    rw [← label_eq_nil_iff.2 hnone]
    exact hasForm_mailAddress domainName h
  · intro client name domain accountType
    refine keepsTo_ensureAccount_of_draws client name domain accountType fun draws hlength => ?_
    exact ⟨newAccount name domain accountType (draws.map Dialogue.letter), rfl,
      isWellFormed_mailAddress_iff domain.name hlength⟩

/-- A name with a dash at either end, and with capitals one of which is the Kelvin sign. -/
theorem exists_well_formed_address :
    [(0 : Fin 62), 1, 26, 27, 52, 61].length = 6 ∧
      IsWellFormed (mailAddress "-Ünit \u212A/" ([0, 1, 26, 27, 52, 61].map Dialogue.letter)) :=
  ⟨rfl, (mailAddress_isWellFormed_iff "-Ünit \u212A/" rfl).1.2 ⟨'n', by decide, .inl rfl⟩⟩

/-- In a domain whose name is written in other letters, an account gets an address without a
label. -/
theorem exists_address_without_label :
    mailAddress "日本" ([0, 1, 26, 27, 52, 61].map Dialogue.letter) = "test-abab09@.test" ∧
      ¬ IsWellFormed (mailAddress "日本" ([0, 1, 26, 27, 52, 61].map Dialogue.letter)) := by
  refine ⟨by decide +kernel, ?_⟩
  rw [isWellFormed_mailAddress_iff "日本" rfl]
  rintro ⟨c, hc, hgives⟩
  have hname : "日本".toList = ['日', '本'] := rfl
  rw [hname] at hc
  rcases List.mem_pair.1 hc with rfl | rfl
  · exact absurd hgives (by decide)
  · exact absurd hgives (by decide)

end Provisioning

end ControlPlane
