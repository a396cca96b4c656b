import ControlPlane.Transport

/-!
# HTTP messages

How a request is written and its reply is read on a stream of bytes that carries one exchange and
ends with it. The end of a body is told by its length, by chunks that each tell their own, or by
the end of the stream.

Main statements: a line is read back as it was written (`cutLine_write`), and reading a line uses
some of the stream up (`length_of_cutLine`).
-/
namespace ControlPlane.Http

/-! ## Requests -/

/-- Host and port of a URL. -/
def authority (url : Url) : String :=
  url.host ++ match url.port with
    | some port => ":" ++ Number.text port
    | none => ""

/-- The port that a URL leads to. -/
def portOf (url : Url) : Nat :=
  url.port.getD (if url.scheme == "https" then 443 else 80)

/-- The text of a request. -/
def requestText (url : Url) : String :=
  "GET " ++ url.target ++ " HTTP/1.1\r\nHost: " ++ authority url ++
    "\r\nAccept: */*\r\nConnection: close\r\n\r\n"

/-! ## Lines -/

/-- Bytes that have yet to be read. -/
abbrev Stream := List UInt8

/-- The end of a line. -/
def lineEnd : Stream := [0x0D, 0x0A]

/-- A line and what follows it, if the line ends. -/
def cutLine : Stream → Option (List Char × Stream)
  | 0x0D :: 0x0A :: rest => some ([], rest)
  | byte :: rest => (cutLine rest).map fun (line, rest) => (Char.ofNat byte.toNat :: line, rest)
  | [] => none

theorem length_of_cutLine {stream rest : Stream} {line : List Char}
    (h : cutLine stream = some (line, rest)) : rest.length < stream.length := by
  fun_induction cutLine stream generalizing line with
  | case1 rest' =>
    simp only [Option.some.injEq, Prod.mk.injEq] at h
    obtain ⟨-, rfl⟩ := h
    simp only [List.length_cons]
    omega
  | case2 byte rest' _ ih =>
    obtain ⟨⟨line', after⟩, hcut, heq⟩ := Option.map_eq_some_iff.1 h
    simp only [Prod.mk.injEq] at heq
    obtain ⟨-, rfl⟩ := heq
    have := ih hcut
    simp only [List.length_cons]
    omega
  | case3 => simp at h

/-- The name and the value of a field. -/
def readField (line : List Char) : String × List Char :=
  let name := line.takeWhile (· != ':')
  let value := (line.drop (name.length + 1)).dropWhile (· == ' ')
  (String.ofList (name.map Char.toLower), value)

/-- The fields of a reply up to the empty line, and what follows that. -/
def readFields (stream : Stream) : Option (List (String × List Char) × Stream) :=
  match h : cutLine stream with
  | none => none
  | some ([], rest) => some ([], rest)
  | some (line, rest) =>
    have := length_of_cutLine h
    (readFields rest).map fun (fields, rest) => (readField line :: fields, rest)
termination_by stream.length

/-- The value of a field. -/
def field? (fields : List (String × List Char)) (name : String) : Option (List Char) :=
  (fields.find? fun field => field.1 == name).map (·.2)

/-! ## Bodies -/

/-- The size that the first line of a chunk tells. -/
def readSize (line : List Char) : Option Nat :=
  Number.ofRadixDigits? 16 (line.takeWhile fun c => c != ';' && c != ' ')

/-- The bytes of chunks, up to the one of size zero. -/
def readChunks (stream : Stream) : Option Stream :=
  match h : cutLine stream with
  | none => none
  | some (line, rest) =>
    match readSize line with
    | none => none
    | some 0 => some []
    | some size =>
      have : rest.length - (size + lineEnd.length) < stream.length := by
        have := length_of_cutLine h
        omega
      if rest.length < size then none
      else (readChunks (rest.drop (size + lineEnd.length))).map (rest.take size ++ ·)
termination_by stream.length

/-- The bytes of a body whose fields have been read. -/
def readBody (fields : List (String × List Char)) (stream : Stream) : Option Stream :=
  if (field? fields "transfer-encoding").map (·.map Char.toLower) == some "chunked".toList then
    readChunks stream
  else
    match (field? fields "content-length").bind Number.ofDigits? with
    | some size => if stream.length < size then none else some (stream.take size)
    | none => some stream

/-- The character of a byte in a text that is not UTF-8. -/
def roughChar (byte : UInt8) : Char :=
  if byte < 0x80 then Char.ofNat byte.toNat else '\ufffd'

/-- The text of bytes. -/
def textOf (bytes : Stream) : String :=
  String.ofList ((Url.ofUtf8? bytes).getD (bytes.map roughChar))

/-- The status in the first line of a reply. -/
def readStatus (line : List Char) : Option Nat :=
  match Text.splitAt ' ' line with
  | _ :: status :: _ => Number.ofDigits? status
  | _ => none

/-- Status and body of a reply, if it is whole. -/
def readReply (stream : Stream) : Option (Nat × String) := do
  let (line, stream) ← cutLine stream
  let status ← readStatus line
  let (fields, stream) ← readFields stream
  let body ← readBody fields stream
  return (status, textOf body)

/-! ## Lines that were written -/

/-- The bytes of a line of ASCII characters. -/
def writeLine (line : List Char) : Stream :=
  line.map (fun c => UInt8.ofNat c.toNat) ++ lineEnd

theorem cutLine_write {line : List Char} (h : ∀ c ∈ line, c.toNat < 128 ∧ c ≠ '\r')
    (rest : Stream) : cutLine (writeLine line ++ rest) = some (line, rest) := by
  induction line with
  | nil => rfl
  | cons c cs ih =>
    obtain ⟨hc, hr⟩ := h c (by simp)
    have hbyte : (UInt8.ofNat c.toNat).toNat = c.toNat := by
      simp only [UInt8.toNat_ofNat']
      omega
    have hne : UInt8.ofNat c.toNat ≠ 0x0D := by
      intro heq
      have := congrArg UInt8.toNat heq
      rw [hbyte] at this
      exact hr (Char.ext (UInt32.toNat_inj.1 this))
    have ih := ih fun d hd => h d (by simp [hd])
    simp only [writeLine, List.map_cons, List.cons_append] at ih ⊢
    rw [cutLine.eq_2 _ _ (by intro tail h1; exact absurd h1 hne), ih]
    simp [hbyte, Char.ofNat_toNat]

end ControlPlane.Http
