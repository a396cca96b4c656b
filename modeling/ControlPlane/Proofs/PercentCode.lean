import ControlPlane.Url.Basic

/-!
# Reading percent-encoded text

Percent-encoding is undone by reading: over any set of kept characters that leaves out `%`, the
bytes behind the written form are the bytes of the text (`unescape_encodeWith`), and UTF-8 gives
the text back (`ofUtf8?_utf8`).

The parser of URLs also writes characters as escapes, but it keeps the `%` it finds, so an escape
in the text is read as the byte it stands for. Each escape makes the text that is read shorter;
where nothing gets shorter, there was no escape (`unescape_eq_utf8_of_length`).
-/

namespace ControlPlane.Url

/-! ## Bytes and characters -/

theorem utf8_cons (c : Char) (cs : List Char) :
    utf8 (c :: cs) = String.utf8EncodeChar c ++ utf8 cs := rfl

/-- The bytes of a text are valid, and they are read as that text. -/
theorem ofUtf8?_utf8 (cs : List Char) : ofUtf8? (utf8 cs) = some cs := by
  have hbytes : (utf8 cs).toByteArray = cs.utf8Encode := rfl
  rw [ofUtf8?, hbytes, List.utf8Decode?_utf8Encode]
  simp

/-- Bytes that can be read are the bytes of what is read. -/
theorem utf8_of_ofUtf8? {bytes : List UInt8} {cs : List Char} (h : ofUtf8? bytes = some cs) :
    utf8 cs = bytes := by
  rw [ofUtf8?, Option.map_eq_some_iff] at h
  obtain ⟨chars, hchars, rfl⟩ := h
  have hget : chars = bytes.toByteArray.utf8Decode?.get (by rw [hchars]; rfl) := by
    simp [hchars]
  have hbytes : chars.toList.utf8Encode = bytes.toByteArray := by
    rw [hget]
    exact ByteArray.utf8Encode_get_utf8Decode?
  have hlist := congrArg (fun b => b.data.toList) hbytes
  simpa [List.utf8Encode, utf8] using hlist

theorem length_utf8_le_of_sublist {cs ds : List Char} (h : cs.Sublist ds) :
    (utf8 cs).length ≤ (utf8 ds).length := by
  induction h with
  | slnil => exact Nat.le_refl _
  | cons d _ ih =>
    rw [utf8_cons, List.length_append]
    omega
  | cons_cons d _ ih =>
    rw [utf8_cons, utf8_cons, List.length_append, List.length_append]
    omega

/-- A part of a text with as many bytes is the whole text. -/
theorem eq_of_sublist_of_length_utf8 {cs ds : List Char} (h : cs.Sublist ds)
    (hlength : (utf8 ds).length ≤ (utf8 cs).length) : cs = ds := by
  induction h with
  | slnil => rfl
  | cons d hrest ih =>
    have hpos : 0 < d.utf8Size := Char.utf8Size_pos d
    have hle := length_utf8_le_of_sublist hrest
    rw [utf8_cons, List.length_append, String.length_utf8EncodeChar] at hlength
    omega
  | cons_cons d _ ih =>
    rw [utf8_cons, utf8_cons, List.length_append, List.length_append] at hlength
    rw [ih (by omega)]

/-! ## Escapes -/

theorem hexValue?_hexDigit {n : Nat} (h : n < 16) : hexValue? (hexDigit n) = some n := by
  have hall : ∀ m : Fin 16, hexValue? (hexDigit m.val) = some m.val := by decide
  exact hall ⟨n, h⟩

theorem unescape_cons_of_ne {c : Char} (h : c ≠ '%') (rest : List Char) :
    unescape (c :: rest) = String.utf8EncodeChar c ++ unescape rest := by
  rw [unescape]
  rintro _ _ _ rfl
  exact absurd rfl h

/-- An escape is read as its byte. -/
theorem unescape_escapeByte (byte : UInt8) (rest : List Char) :
    unescape (escapeByte byte ++ rest) = byte :: unescape rest := by
  have hbyte : byte.toNat < 256 := UInt8.toNat_lt byte
  have hhigh := hexValue?_hexDigit (show byte.toNat / 16 < 16 by omega)
  have hlow := hexValue?_hexDigit (show byte.toNat % 16 < 16 by omega)
  have hsum : 16 * (byte.toNat / 16) + byte.toNat % 16 = byte.toNat := by omega
  rw [escapeByte, List.cons_append, List.cons_append, List.cons_append, List.nil_append, unescape]
  simp only [hhigh, hlow, hsum, UInt8.ofNat_toNat]

theorem unescape_escapeBytes (bytes : List UInt8) (rest : List Char) :
    unescape (bytes.flatMap escapeByte ++ rest) = bytes ++ unescape rest := by
  induction bytes with
  | nil => rfl
  | cons byte bytes ih =>
    rw [List.flatMap_cons, List.append_assoc, unescape_escapeByte, ih, List.cons_append]

theorem unescape_escapeChar (c : Char) (rest : List Char) :
    unescape (escapeChar c ++ rest) = String.utf8EncodeChar c ++ unescape rest :=
  unescape_escapeBytes _ _

/-- Over kept characters without `%`, the bytes behind the written form are those of the text. -/
theorem unescape_encodeWith {keep : Char → Bool} (hkeep : keep '%' = false) (cs : List Char) :
    unescape (encodeWith keep cs) = utf8 cs := by
  induction cs with
  | nil => rfl
  | cons c cs ih =>
    rw [utf8_cons]
    cases hc : keep c with
    | true =>
      have hne : c ≠ '%' := by
        rintro rfl
        exact absurd (hkeep.symm.trans hc) (by simp)
      rw [encodeWith_cons_of_kept hc, unescape_cons_of_ne hne, ih]
    | false => rw [encodeWith_cons_of_not_kept hc, unescape_escapeChar, ih]

theorem decodeComponent_of_unescape {cs ds : List Char} (h : unescape cs = utf8 ds) :
    decodeComponent cs = ds := by
  rw [decodeComponent, h, ofUtf8?_utf8, Option.getD_some]

/-- A parameter value is read as it was written. -/
theorem decodeComponent_encodeComponent (cs : List Char) :
    decodeComponent (encodeComponent cs) = cs :=
  decodeComponent_of_unescape (unescape_encodeWith (by decide) cs)

/-! ## Text that the parser has written -/

/-- The byte of an escape whose `%` has been read, and what follows it. -/
def hexPair? : List Char → Option (UInt8 × List Char)
  | high :: low :: rest =>
    match hexValue? high, hexValue? low with
    | some h, some l => some (UInt8.ofNat (16 * h + l), rest)
    | _, _ => none
  | _ => none

theorem unescape_percent (cs : List Char) :
    unescape ('%' :: cs) =
      match hexPair? cs with
      | some (byte, rest) => byte :: unescape rest
      | none => 0x25 :: unescape cs := by
  have hpercent : String.utf8EncodeChar '%' = [0x25] := by decide
  match cs with
  | [] => simp [unescape, hexPair?, hpercent]
  | [_] => simp [unescape, hexPair?, hpercent]
  | high :: low :: rest =>
    rw [unescape, hexPair?]
    cases hexValue? high with
    | none => rfl
    | some h =>
      cases hexValue? low with
      | none => rfl
      | some l => rfl

theorem hexPair?_eq_some {cs rest : List Char} {byte : UInt8}
    (h : hexPair? cs = some (byte, rest)) :
    ∃ high low, cs = high :: low :: rest ∧ (hexValue? high).isSome ∧ (hexValue? low).isSome := by
  match cs with
  | [] => simp [hexPair?] at h
  | [_] => simp [hexPair?] at h
  | high :: low :: more =>
    rw [hexPair?] at h
    cases hhigh : hexValue? high with
    | none => rw [hhigh] at h; simp at h
    | some m =>
      cases hlow : hexValue? low with
      | none => rw [hhigh, hlow] at h; simp at h
      | some n =>
        rw [hhigh, hlow] at h
        simp only [Option.some.injEq, Prod.mk.injEq] at h
        exact ⟨high, low, by rw [h.2], by rw [hhigh]; rfl, by rw [hlow]; rfl⟩

/-- An escape takes three characters where its byte takes one; what is no escape is read as it
stands. -/
theorem unescape_shorter_or_eq (cs : List Char) :
    (unescape cs).length < (utf8 cs).length ∨ unescape cs = utf8 cs := by
  match cs with
  | [] => exact Or.inr rfl
  | c :: cs =>
    by_cases hc : c = '%'
    · subst hc
      rw [unescape_percent, utf8_cons, show String.utf8EncodeChar '%' = [0x25] from by decide]
      cases hpair : hexPair? cs with
      | none =>
        rcases unescape_shorter_or_eq cs with ih | ih
        · refine Or.inl ?_
          simp only [List.length_cons, List.length_append, List.length_nil]
          omega
        · exact Or.inr (by rw [ih]; rfl)
      | some found =>
        obtain ⟨byte, rest⟩ := found
        obtain ⟨high, low, rfl, -, -⟩ := hexPair?_eq_some hpair
        have hle : (unescape rest).length ≤ (utf8 rest).length := by
          rcases unescape_shorter_or_eq rest with ih | ih
          · omega
          · exact Nat.le_of_eq (by rw [ih])
        have hhigh := Char.utf8Size_pos high
        refine Or.inl ?_
        simp only [utf8_cons, List.length_cons, List.length_append, List.length_nil,
          String.length_utf8EncodeChar]
        omega
    · rw [unescape_cons_of_ne hc, utf8_cons]
      rcases unescape_shorter_or_eq cs with ih | ih
      · refine Or.inl ?_
        simp only [List.length_append]
        omega
      · exact Or.inr (by rw [ih])
termination_by cs.length

theorem length_unescape_le (cs : List Char) : (unescape cs).length ≤ (utf8 cs).length := by
  rcases unescape_shorter_or_eq cs with h | h
  · omega
  · exact Nat.le_of_eq (by rw [h])

theorem unescape_eq_utf8_of_length {cs : List Char}
    (h : (utf8 cs).length ≤ (unescape cs).length) : unescape cs = utf8 cs := by
  rcases unescape_shorter_or_eq cs with hlt | heq
  · omega
  · exact heq

theorem unescape_of_no_percent {cs : List Char} (h : '%' ∉ cs) : unescape cs = utf8 cs := by
  induction cs with
  | nil => rfl
  | cons c cs ih =>
    rw [List.mem_cons, not_or] at h
    rw [unescape_cons_of_ne (Ne.symm h.1), ih h.2, utf8_cons]

/-- What holds of the first 128 characters holds of every character of ASCII. -/
theorem forall_ascii {P : Char → Prop} (h : ∀ n : Fin 0x80, P (Char.ofNat n.val)) {c : Char}
    (hc : c.toNat < 0x80) : P c := by
  have hof := h ⟨c.toNat, hc⟩
  rwa [Char.ofNat_toNat] at hof

theorem isAscii_of_hexValue? {c : Char} (h : (hexValue? c).isSome) : c.toNat < 0x80 := by
  unfold hexValue? at h
  split at h
  · rename_i hdigit
    simp only [Char.isDigit, Bool.and_eq_true, decide_eq_true_eq] at hdigit
    exact Nat.lt_of_le_of_lt (show c.toNat ≤ 0x39 from hdigit.2) (by decide)
  · split at h
    · rename_i hupper
      exact Nat.lt_of_le_of_lt (show c.toNat ≤ 0x46 from hupper.2) (by decide)
    · split at h
      · rename_i hlower
        exact Nat.lt_of_le_of_lt (show c.toNat ≤ 0x66 from hlower.2) (by decide)
      · exact absurd h (by simp)

theorem isKeptInQuery_of_hexValue? {c : Char} (h : (hexValue? c).isSome) :
    isKeptInQuery c = true :=
  forall_ascii (P := fun c => (hexValue? c).isSome → isKeptInQuery c = true) (by decide)
    (isAscii_of_hexValue? h) h

theorem hexValue?_of_not_kept {c : Char} (h : isKeptInQuery c = false) : hexValue? c = none := by
  cases hvalue : hexValue? c with
  | none => rfl
  | some n =>
    rw [isKeptInQuery_of_hexValue? (by rw [hvalue]; rfl)] at h
    exact absurd h (by decide)

theorem encodeQuery_cons_of_kept {c : Char} (h : isKeptInQuery c = true) (cs : List Char) :
    encodeQuery (c :: cs) = c :: encodeQuery cs :=
  encodeWith_cons_of_kept h cs

theorem encodeQuery_cons_of_not_kept {c : Char} (h : isKeptInQuery c = false) (cs : List Char) :
    encodeQuery (c :: cs) = escapeChar c ++ encodeQuery cs :=
  encodeWith_cons_of_not_kept h cs

/-- The escape of a character begins with a `%`, which is no digit. -/
theorem escapeChar_eq_percent (c : Char) : ∃ cs, escapeChar c = '%' :: cs := by
  obtain ⟨byte, bytes, hbytes⟩ := List.exists_cons_of_ne_nil (String.utf8EncodeChar_ne_nil (c := c))
  exact ⟨_, by rw [escapeChar, hbytes, List.flatMap_cons, escapeByte, List.cons_append]⟩

/-- Writing makes no escape out of what was none, and keeps those that are there. -/
theorem hexPair?_encodeQuery (cs : List Char) :
    hexPair? (encodeQuery cs) = (hexPair? cs).map fun found => (found.1, encodeQuery found.2) := by
  have hnone : hexValue? '%' = none := by decide
  match cs with
  | [] => rfl
  | high :: cs =>
    cases hhigh : isKeptInQuery high with
    | false =>
      obtain ⟨more, hmore⟩ := escapeChar_eq_percent high
      have hno := hexValue?_of_not_kept hhigh
      rw [encodeQuery_cons_of_not_kept hhigh, hmore, List.cons_append]
      cases hrest : more ++ encodeQuery cs <;> cases cs <;> simp [hexPair?, hnone, hno]
    | true =>
      rw [encodeQuery_cons_of_kept hhigh]
      match cs with
      | [] => rfl
      | low :: cs =>
        cases hlow : isKeptInQuery low with
        | false =>
          obtain ⟨more, hmore⟩ := escapeChar_eq_percent low
          have hno := hexValue?_of_not_kept hlow
          rw [encodeQuery_cons_of_not_kept hlow, hmore, List.cons_append]
          cases hvalue : hexValue? high <;> simp [hexPair?, hnone, hno, hvalue]
        | true =>
          rw [encodeQuery_cons_of_kept hlow]
          cases hvalue : hexValue? high <;> cases hvalue' : hexValue? low <;>
            simp [hexPair?, hvalue, hvalue']

/-- What the parser writes as escapes is read as it stood; escapes that were there are read as
their bytes. -/
theorem unescape_encodeQuery (cs : List Char) : unescape (encodeQuery cs) = unescape cs := by
  match cs with
  | [] => rfl
  | c :: cs =>
    by_cases hc : c = '%'
    · subst hc
      rw [encodeQuery_cons_of_kept (by decide), unescape_percent, unescape_percent,
        hexPair?_encodeQuery]
      cases hpair : hexPair? cs with
      | none => rw [Option.map_none, unescape_encodeQuery cs]
      | some found =>
        obtain ⟨byte, rest⟩ := found
        obtain ⟨high, low, rfl, -, -⟩ := hexPair?_eq_some hpair
        have ih := unescape_encodeQuery rest
        simp only [Option.map_some, ih]
    · rw [unescape_cons_of_ne hc]
      cases hkept : isKeptInQuery c with
      | true => rw [encodeQuery_cons_of_kept hkept, unescape_cons_of_ne hc, unescape_encodeQuery cs]
      | false =>
        rw [encodeQuery_cons_of_not_kept hkept, unescape_escapeChar, unescape_encodeQuery cs]
termination_by cs.length

theorem mem_escapeChar {c d : Char} (h : d ∈ escapeChar c) : isUnreserved d = true ∨ d = '%' := by
  rw [escapeChar, List.mem_flatMap] at h
  obtain ⟨byte, -, hd⟩ := h
  exact mem_escapeByte hd

/-- What the parser writes is what was there or part of an escape. -/
theorem mem_encodeQuery {cs : List Char} {d : Char} (h : d ∈ encodeQuery cs) :
    (d ∈ cs ∧ isKeptInQuery d = true) ∨ isUnreserved d = true ∨ d = '%' := by
  rw [encodeQuery, encodeWith, List.mem_flatMap] at h
  obtain ⟨c, hc, hd⟩ := h
  split at hd
  · rename_i hkept
    rw [List.mem_singleton] at hd
    subst hd
    exact Or.inl ⟨hc, hkept⟩
  · exact Or.inr (mem_escapeChar hd)

theorem isAscii_of_isUnreserved {c : Char} (h : isUnreserved c = true) : c.toNat < 0x80 := by
  have hupper : c.isUpper = true → c.toNat ≤ 0x5A :=
    fun h => (of_decide_eq_true (p := c.val ≥ 'A'.val ∧ c.val ≤ 'Z'.val) h).2
  have hlower : c.isLower = true → c.toNat ≤ 0x7A :=
    fun h => of_decide_eq_true (Bool.and_eq_true_iff.1 h).2
  have hdigit : c.isDigit = true → c.toNat ≤ 0x39 :=
    fun h => of_decide_eq_true (Bool.and_eq_true_iff.1 h).2
  simp only [isUnreserved, Bool.or_eq_true, beq_iff_eq] at h
  rcases h with (((h | rfl) | rfl) | rfl) | rfl
  · rcases Bool.or_eq_true_iff.1 h with h | h
    · rcases Bool.or_eq_true_iff.1 h with h | h
      · exact Nat.lt_of_le_of_lt (hupper h) (by decide)
      · exact Nat.lt_of_le_of_lt (hlower h) (by decide)
    · exact Nat.lt_of_le_of_lt (hdigit h) (by decide)
  all_goals decide

theorem isKeptInQuery_of_isUnreserved {c : Char} (h : isUnreserved c = true) :
    isKeptInQuery c = true :=
  forall_ascii (P := fun c => isUnreserved c = true → isKeptInQuery c = true) (by decide)
    (isAscii_of_isUnreserved h) h

/-- Writing again changes nothing. -/
theorem encodeQuery_encodeQuery (cs : List Char) :
    encodeQuery (encodeQuery cs) = encodeQuery cs := by
  refine encodeQuery_of_kept ?_
  intro d hd
  rcases mem_encodeQuery hd with ⟨-, hkept⟩ | hunreserved | rfl
  · exact hkept
  · exact isKeptInQuery_of_isUnreserved hunreserved
  · decide

theorem encodeQuery_encodeComponent (cs : List Char) :
    encodeQuery (encodeComponent cs) = encodeComponent cs := by
  refine encodeQuery_of_kept ?_
  intro d hd
  rcases mem_encodeComponent hd with hunreserved | rfl
  · exact isKeptInQuery_of_isUnreserved hunreserved
  · decide

end ControlPlane.Url
