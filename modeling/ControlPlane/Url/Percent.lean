/-!
# Percent-encoding

Text inside a URL is written over a set of characters that stand for themselves; every other
character becomes `%XY` for each byte of its UTF-8 form (`encodeWith`). Parameter values keep
only the unreserved characters (`encodeComponent`). Reading back turns every `%XY` into its byte
(`unescape`) and the bytes into characters (`decodeComponent`).

Main statements: encoding distributes over appending (`encodeWith_append`), and an encoded value
is made of unreserved characters and escapes only (`mem_encodeComponent`), so no separator of a
query can occur in it.
-/
namespace ControlPlane.Url

/-- The UTF-8 bytes of a text. -/
def utf8 (cs : List Char) : List UInt8 :=
  cs.flatMap String.utf8EncodeChar

/-- The text with the given UTF-8 bytes, if they are valid. -/
def ofUtf8? (bytes : List UInt8) : Option (List Char) :=
  bytes.toByteArray.utf8Decode?.map Array.toList

/-- An upper-case hexadecimal digit. -/
def hexDigit (n : Nat) : Char :=
  if n < 10 then Char.ofNat (0x30 + n) else Char.ofNat (0x37 + n)

/-- The value of a hexadecimal digit of either case. -/
def hexValue? (c : Char) : Option Nat :=
  if c.isDigit then some (c.toNat - 0x30)
  else if 'A' ≤ c ∧ c ≤ 'F' then some (c.toNat - 0x37)
  else if 'a' ≤ c ∧ c ≤ 'f' then some (c.toNat - 0x57)
  else none

/-- The escape of one byte. -/
def escapeByte (byte : UInt8) : List Char :=
  ['%', hexDigit (byte.toNat / 16), hexDigit (byte.toNat % 16)]

/-- The escapes of one character. -/
def escapeChar (c : Char) : List Char :=
  (String.utf8EncodeChar c).flatMap escapeByte

/-- Text with every character outside `keep` escaped. -/
def encodeWith (keep : Char → Bool) (cs : List Char) : List Char :=
  cs.flatMap fun c => if keep c then [c] else escapeChar c

/-- Letters, digits and `- _ . ~`, which stand for themselves in a value. -/
def isUnreserved (c : Char) : Bool :=
  c.isAlphanum || c == '-' || c == '_' || c == '.' || c == '~'

/-- The encoding of a parameter value. -/
def encodeComponent (cs : List Char) : List Char :=
  encodeWith isUnreserved cs

/-- The encoding of a parameter value, on strings. -/
def encodeString (s : String) : String :=
  String.ofList (encodeComponent s.toList)

/-- The bytes of a text with its escapes resolved; a `%` that starts no escape stands for itself. -/
def unescape : List Char → List UInt8
  | [] => []
  | '%' :: high :: low :: rest =>
    match hexValue? high, hexValue? low with
    | some h, some l => UInt8.ofNat (16 * h + l) :: unescape rest
    | _, _ => 0x25 :: unescape (high :: low :: rest)
  | c :: rest => String.utf8EncodeChar c ++ unescape rest

/-- The text behind an encoded one; text whose bytes are not UTF-8 is left as it is. -/
def decodeComponent (cs : List Char) : List Char :=
  (ofUtf8? (unescape cs)).getD cs

/-! ## The shape of encoded text -/

theorem encodeWith_append (keep : Char → Bool) (cs ds : List Char) :
    encodeWith keep (cs ++ ds) = encodeWith keep cs ++ encodeWith keep ds := by
  simp [encodeWith]

theorem encodeWith_cons_of_kept {keep : Char → Bool} {c : Char} (h : keep c = true)
    (cs : List Char) : encodeWith keep (c :: cs) = c :: encodeWith keep cs := by
  rw [encodeWith, List.flatMap_cons, if_pos h, ← encodeWith, List.singleton_append]

theorem encodeWith_cons_of_not_kept {keep : Char → Bool} {c : Char} (h : keep c = false)
    (cs : List Char) : encodeWith keep (c :: cs) = escapeChar c ++ encodeWith keep cs := by
  rw [encodeWith, List.flatMap_cons, if_neg (by simp [h]), ← encodeWith]

theorem isUnreserved_hexDigit {n : Nat} (h : n < 16) : isUnreserved (hexDigit n) = true := by
  have : ∀ m : Fin 16, isUnreserved (hexDigit m.val) = true := by decide
  exact this ⟨n, h⟩

theorem mem_escapeByte {byte : UInt8} {c : Char} (h : c ∈ escapeByte byte) :
    isUnreserved c = true ∨ c = '%' := by
  have hb : byte.toNat < 256 := UInt8.toNat_lt byte
  simp only [escapeByte, List.mem_cons, List.not_mem_nil, or_false] at h
  rcases h with rfl | rfl | rfl
  · exact .inr rfl
  · exact .inl (isUnreserved_hexDigit (by omega))
  · exact .inl (isUnreserved_hexDigit (by omega))

theorem mem_encodeComponent {cs : List Char} {c : Char} (h : c ∈ encodeComponent cs) :
    isUnreserved c = true ∨ c = '%' := by
  simp only [encodeComponent, encodeWith, List.mem_flatMap] at h
  obtain ⟨d, -, hd⟩ := h
  split at hd
  · rename_i hkeep
    simp only [List.mem_cons, List.not_mem_nil, or_false] at hd
    exact .inl (hd ▸ hkeep)
  · simp only [escapeChar, List.mem_flatMap] at hd
    obtain ⟨byte, -, hbyte⟩ := hd
    exact mem_escapeByte hbyte

end ControlPlane.Url
