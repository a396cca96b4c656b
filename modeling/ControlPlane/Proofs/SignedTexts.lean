import ControlPlane.Proofs.SignedRequests
import Mathlib.Data.List.Forall2

/-!
# What a signed text tells

The text that is signed (`sign_canonicalQuery`) is the canonical query in lower case, with the
digits of its escapes. An escape is read as the same byte in either case, and an ASCII letter is
never escaped, so what is read off a signed text is each name and each value with its ASCII letters
in lower case (`parameters_signedText`). Nothing else is lost: letters beyond ASCII keep their case,
and a `%` in a value is told from the one of an escape.

Main statement: two lists of parameters are signed over the same text if and only if, in the order
of their names, they are the same up to the case of ASCII letters (`signedText_eq_iff`).
-/

namespace ControlPlane

namespace Url

/-! ## Lower case and escapes -/

theorem isUnreserved_toLower {c : Char} (h : isUnreserved c = true) :
    isUnreserved c.toLower = true ∧ c.toLower.toLower = c.toLower :=
  forall_ascii (P := fun c => isUnreserved c = true →
    isUnreserved c.toLower = true ∧ c.toLower.toLower = c.toLower) (by decide)
    (isAscii_of_isUnreserved h) h

/-- A character that is escaped is no capital of ASCII. -/
theorem toLower_of_not_isUnreserved {c : Char} (h : isUnreserved c = false) : c.toLower = c := by
  have hother : ¬ (c.val ≥ 'A'.val ∧ c.val ≤ 'Z'.val) := by
    intro hcapital
    have hupper : c.isUpper = true := decide_eq_true hcapital
    have halpha : c.isAlpha = true := Bool.or_eq_true_iff.2 (.inl hupper)
    have halnum : c.isAlphanum = true := Bool.or_eq_true_iff.2 (.inl halpha)
    simp [isUnreserved, halnum] at h
  exact dif_neg hother

theorem hexValue?_toLower_hexDigit {n : Nat} (h : n < 16) :
    hexValue? (hexDigit n).toLower = some n := by
  have hall : ∀ m : Fin 16, hexValue? (hexDigit m.val).toLower = some m.val := by decide
  exact hall ⟨n, h⟩

/-- An escape in lower case is read as its byte. -/
theorem unescape_toLower_escapeByte (byte : UInt8) (rest : List Char) :
    unescape ((escapeByte byte).map Char.toLower ++ rest) = byte :: unescape rest := by
  have hbyte : byte.toNat < 256 := UInt8.toNat_lt byte
  have hhigh := hexValue?_toLower_hexDigit (show byte.toNat / 16 < 16 by omega)
  have hlow := hexValue?_toLower_hexDigit (show byte.toNat % 16 < 16 by omega)
  have hsum : 16 * (byte.toNat / 16) + byte.toNat % 16 = byte.toNat := by omega
  rw [escapeByte, List.map_cons, List.map_cons, List.map_cons, List.map_nil, List.cons_append,
    List.cons_append, List.cons_append, List.nil_append, show '%'.toLower = '%' from by decide,
    unescape]
  simp only [hhigh, hlow, hsum, UInt8.ofNat_toNat]

theorem unescape_toLower_escapeBytes (bytes : List UInt8) (rest : List Char) :
    unescape ((bytes.flatMap escapeByte).map Char.toLower ++ rest) = bytes ++ unescape rest := by
  induction bytes with
  | nil => rfl
  | cons byte bytes ih =>
    rw [List.flatMap_cons, List.map_append, List.append_assoc, unescape_toLower_escapeByte, ih,
      List.cons_append]

theorem encodeComponent_cons_of_isUnreserved {c : Char} (h : isUnreserved c = true)
    (cs : List Char) : encodeComponent (c :: cs) = c :: encodeComponent cs :=
  encodeWith_cons_of_kept h cs

theorem encodeComponent_cons_of_not_isUnreserved {c : Char} (h : isUnreserved c = false)
    (cs : List Char) : encodeComponent (c :: cs) = escapeChar c ++ encodeComponent cs :=
  encodeWith_cons_of_not_kept h cs

/-- Behind an encoded value in lower case are the bytes of the value in lower case. -/
theorem unescape_toLower_encodeComponent (cs : List Char) :
    unescape ((encodeComponent cs).map Char.toLower) = utf8 (cs.map Char.toLower) := by
  induction cs with
  | nil => rfl
  | cons c cs ih =>
    rw [List.map_cons, utf8_cons]
    cases hc : isUnreserved c with
    | true =>
      have hne : c.toLower ≠ '%' := by
        intro hpercent
        have hlower := (isUnreserved_toLower hc).1
        rw [hpercent] at hlower
        exact absurd hlower (by decide)
      rw [encodeComponent_cons_of_isUnreserved hc, List.map_cons, unescape_cons_of_ne hne, ih]
    | false =>
      rw [encodeComponent_cons_of_not_isUnreserved hc, List.map_append, escapeChar,
        unescape_toLower_escapeBytes, ih, toLower_of_not_isUnreserved hc]

/-- An encoded value in lower case depends on the value in lower case only. -/
theorem toLower_encodeComponent (cs : List Char) :
    (encodeComponent cs).map Char.toLower =
      (encodeComponent (cs.map Char.toLower)).map Char.toLower := by
  induction cs with
  | nil => rfl
  | cons c cs ih =>
    cases hc : isUnreserved c with
    | true =>
      obtain ⟨hlower, htwice⟩ := isUnreserved_toLower hc
      rw [List.map_cons, encodeComponent_cons_of_isUnreserved hc,
        encodeComponent_cons_of_isUnreserved hlower, List.map_cons, List.map_cons, htwice, ih]
    | false =>
      rw [List.map_cons, toLower_of_not_isUnreserved hc,
        encodeComponent_cons_of_not_isUnreserved hc, encodeComponent_cons_of_not_isUnreserved hc,
        List.map_append, List.map_append, ih]

end Url

namespace Signing

open Url Connection

/-! ## Signed texts -/

/-- The text that is signed. -/
def signedText (params : Parameters) : List Char :=
  Text.lowercase (canonicalQuery params).toList

/-- The signature of parameters authenticates their signed text. -/
theorem sign_canonicalQuery (params : Parameters) (secret : String) :
    sign (canonicalQuery params) secret = String.ofList (Text.Base64.encode
      (Digest.Hmac.digest (utf8 secret.toList) (utf8 (signedText params)))) := rfl

/-- Name and value with their ASCII letters in lower case. -/
def lowered (param : String × String) : List Char × List Char :=
  (param.1.toList.map Char.toLower, param.2.toList.map Char.toLower)

/-- Parameters that are the same up to the case of the ASCII letters in name and value. -/
def SameUpToCase (a b : String × String) : Prop := lowered a = lowered b

/-- Parameters with names of plain characters. -/
def PlainNames (params : Parameters) : Prop :=
  ∀ param ∈ params, ∀ c ∈ param.1.toList, isPlain c = true

instance (params : Parameters) : Decidable (PlainNames params) :=
  decidable_of_iff (params.all fun param => param.1.toList.all isPlain) (by simp [PlainNames])

theorem plainNames_ordered {params : Parameters} (h : PlainNames params) :
    PlainNames (ordered params) :=
  fun param hparam => h param ((ordered_perm params).mem_iff.1 hparam)

/-- A name and a value in lower case, as they stand in a signed text. -/
def signedPiece (param : List Char × List Char) : List Char :=
  param.1 ++ '=' :: (encodeComponent param.2).map Char.toLower

theorem toLower_pairChars (param : String × String) :
    (pairChars param).map Char.toLower = signedPiece (lowered param) := by
  rw [pairChars, List.map_append, List.map_cons, show '='.toLower = '=' from by decide,
    toLower_encodeComponent]
  rfl

theorem isAscii_of_isPlain {c : Char} (h : isPlain c = true) : c.toNat < 0x80 := by
  simp only [isPlain, Bool.or_eq_true, beq_iff_eq] at h
  rcases h with (h | rfl) | rfl
  · exact isAscii_of_isUnreserved h
  · decide
  · decide

theorem isAscii_of_mem_written {params : Parameters} (h : PlainNames params) {c : Char}
    (hc : c ∈ written params) : Text.isAscii c = true := by
  rw [Text.isAscii, decide_eq_true_eq]
  rcases Text.mem_intercalate hc with rfl | ⟨piece, hpiece, hmem⟩
  · decide
  · obtain ⟨param, hparam, rfl⟩ := List.mem_map.1 hpiece
    rw [pairChars, List.mem_append, List.mem_cons] at hmem
    rcases hmem with hmem | rfl | hmem
    · exact isAscii_of_isPlain (h param hparam c hmem)
    · decide
    · rcases mem_encodeComponent hmem with hunreserved | rfl
      · exact isAscii_of_isUnreserved hunreserved
      · decide

theorem map_intercalate {α β : Type} (f : α → β) (separator : List α) (pieces : List (List α)) :
    (separator.intercalate pieces).map f =
      (separator.map f).intercalate (pieces.map (List.map f)) := by
  induction pieces with
  | nil => rfl
  | cons piece pieces ih =>
    cases pieces with
    | nil => simp
    | cons next more =>
      rw [List.intercalate_cons_cons, List.map_append, List.map_append, ih, List.map_cons,
        List.map_cons, List.map_cons, List.intercalate_cons_cons]

/-- A signed text is put together of its parameters in lower case. -/
theorem signedText_eq {params : Parameters} (h : PlainNames params) :
    signedText params =
      ['&'].intercalate (((ordered params).map lowered).map signedPiece) := by
  have hascii := fun c => @isAscii_of_mem_written _ (plainNames_ordered h) c
  rw [signedText, toList_canonicalQuery, Text.lowercase_of_ascii hascii, written,
    map_intercalate, List.map_map, List.map_map]
  congr 1
  exact List.map_congr_left fun param _ => toLower_pairChars param

/-! ## Reading a signed text -/

/-- A character of a name stays one in lower case, and it cuts no query and begins no escape. -/
theorem toLower_of_isPlain {c : Char} (h : isPlain c = true) :
    isQueryMark c.toLower = false ∧ c.toLower ≠ '%' :=
  forall_ascii (P := fun c => isPlain c = true → isQueryMark c.toLower = false ∧ c.toLower ≠ '%')
    (by decide) (isAscii_of_isPlain h) h

/-- Nor does a character of an encoded value. -/
theorem isQueryMark_of_mem_toLower_encodeComponent {cs : List Char} {c : Char}
    (h : c ∈ (encodeComponent cs).map Char.toLower) : isQueryMark c = false := by
  obtain ⟨d, hd, rfl⟩ := List.mem_map.1 h
  rcases mem_encodeComponent hd with hunreserved | rfl
  · exact (toLower_of_isPlain (by rw [isPlain, hunreserved]; rfl)).1
  · decide

section

variable {param : String × String} (h : ∀ c ∈ param.1.toList, isPlain c = true)
include h

theorem isQueryMark_of_mem_lowered {c : Char} (hc : c ∈ (lowered param).1) :
    isQueryMark c = false := by
  obtain ⟨d, hd, rfl⟩ := List.mem_map.1 hc
  exact (toLower_of_isPlain (h d hd)).1

/-- A piece of a signed text is read as the name and the value in lower case. -/
theorem readPair_signedPiece : readPair (signedPiece (lowered param)) = lowered param := by
  have hname : ∀ c ∈ (lowered param).1, (c == '=') = false := fun c hc =>
    (Bool.or_eq_false_iff.1 (isQueryMark_of_mem_lowered h hc)).2
  have hpercent : '%' ∉ (lowered param).1 := by
    intro hmem
    obtain ⟨d, hd, hlower⟩ := List.mem_map.1 hmem
    exact (toLower_of_isPlain (h d hd)).2 hlower
  have hvalue : decodeComponent ((encodeComponent (lowered param).2).map Char.toLower) =
      (lowered param).2 := by
    refine decodeComponent_of_unescape ?_
    rw [lowered, ← toLower_encodeComponent, unescape_toLower_encodeComponent]
  rw [readPair, signedPiece, cutAt_append_cons hname rfl]
  simp only [Option.getD_some, hvalue,
    decodeComponent_of_unescape (unescape_of_no_percent hpercent)]

theorem ampersand_not_mem_signedPiece : '&' ∉ signedPiece (lowered param) := by
  intro hmem
  rw [signedPiece, List.mem_append, List.mem_cons] at hmem
  rcases hmem with hmem | hmem | hmem
  · exact absurd (isQueryMark_of_mem_lowered h hmem) (by decide)
  · exact absurd hmem (by decide)
  · exact absurd (isQueryMark_of_mem_toLower_encodeComponent hmem) (by decide)

end

/-- What is read off a signed text is its parameters in their order, in lower case. -/
theorem parameters_signedText {params : Parameters} (h : PlainNames params) :
    Url.parameters (signedText params) = (ordered params).map lowered := by
  have hplain := plainNames_ordered h
  have hpieces : ∀ piece ∈ ((ordered params).map lowered).map signedPiece,
      '&' ∉ piece ∧ (!piece.isEmpty) = true := by
    intro piece hpiece
    rw [List.map_map] at hpiece
    obtain ⟨param, hparam, rfl⟩ := List.mem_map.1 hpiece
    exact ⟨ampersand_not_mem_signedPiece (hplain param hparam), by simp [signedPiece]⟩
  rw [signedText_eq h]
  by_cases hnil : ordered params = []
  · rw [hnil]
    rfl
  · rw [Url.parameters, Text.splitAt_intercalate (by simpa using hnil) fun p hp => (hpieces p hp).1,
      List.filter_eq_self.2 fun p hp => (hpieces p hp).2, List.map_map, List.map_map]
    exact List.map_congr_left fun param hparam => readPair_signedPiece (hplain param hparam)

/-! ## Equal texts -/

theorem forall₂_sameUpToCase_iff {ps qs : Parameters} :
    List.Forall₂ SameUpToCase ps qs ↔ ps.map lowered = qs.map lowered := by
  rw [← List.forall₂_eq_eq_eq, List.forall₂_map_left_iff, List.forall₂_map_right_iff]
  rfl

/-- The same text has the same signature. -/
theorem sign_congr {p q : Parameters} (h : signedText p = signedText q) (secret : String) :
    sign (canonicalQuery p) secret = sign (canonicalQuery q) secret := by
  rw [sign_canonicalQuery, sign_canonicalQuery, h]

/-- Parameters are signed over the same text if and only if, in the order of their names, they are
the same up to the case of ASCII letters; then they have the same signatures. -/
theorem signedText_eq_iff {p q : Parameters} (hp : PlainNames p) (hq : PlainNames q) :
    (signedText p = signedText q ↔ List.Forall₂ SameUpToCase (ordered p) (ordered q)) ∧
      (List.Forall₂ SameUpToCase (ordered p) (ordered q) →
        ∀ secret, sign (canonicalQuery p) secret = sign (canonicalQuery q) secret) := by
  have hiff : signedText p = signedText q ↔
      List.Forall₂ SameUpToCase (ordered p) (ordered q) := by
    rw [forall₂_sameUpToCase_iff]
    constructor
    · intro h
      rw [← parameters_signedText hp, ← parameters_signedText hq, h]
    · intro h
      rw [signedText_eq hp, signedText_eq hq, h]
  exact ⟨hiff, fun h secret => sign_congr (hiff.2 h) secret⟩

/-- The case of ASCII letters in names and values is not told by a signed text, also where names
agree; the case of another letter is. -/
theorem exists_same_signed_texts :
    (∀ secret,
      sign (canonicalQuery [("listAll", "TRUE"), ("name", "Šířka %2F"), ("Name", "b")]) secret =
        sign (canonicalQuery [("LISTALL", "true"), ("Name", "ŠířKA %2f"), ("name", "B")]) secret) ∧
    signedText [("listAll", "TRUE"), ("name", "Šířka %2F"), ("Name", "b")] ≠
      signedText [("listAll", "TRUE"), ("name", "šířka %2F"), ("Name", "b")] := by
  have hfirst : ordered [("listAll", "TRUE"), ("name", "Šířka %2F"), ("Name", "b")] = _ :=
    List.mergeSort_of_pairwise (by decide +kernel)
  have hsecond : ordered [("LISTALL", "true"), ("Name", "ŠířKA %2f"), ("name", "B")] = _ :=
    List.mergeSort_of_pairwise (by decide +kernel)
  have hthird : ordered [("listAll", "TRUE"), ("name", "šířka %2F"), ("Name", "b")] = _ :=
    List.mergeSort_of_pairwise (by decide +kernel)
  refine ⟨(signedText_eq_iff (by decide) (by decide)).2 ?_, ?_⟩
  · rw [hfirst, hsecond, forall₂_sameUpToCase_iff]
    decide +kernel
  · rw [Ne, (signedText_eq_iff (by decide) (by decide)).1, hfirst, hthird,
      forall₂_sameUpToCase_iff]
    decide +kernel

end Signing

end ControlPlane
