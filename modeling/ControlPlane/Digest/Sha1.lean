/-!
# SHA-1

The digest of FIPS 180-4 over a list of bytes: padding to whole blocks, a schedule of eighty
words per block, and eighty rounds on five words of state.

Main statements: a digest has twenty bytes (`length_digest`), and padding fills whole blocks
(`length_padded`).
-/
namespace ControlPlane.Digest.Sha1

/-- The five words that a message is condensed to. -/
structure State where
  a : UInt32
  b : UInt32
  c : UInt32
  d : UInt32
  e : UInt32

/-- The state before the first block. -/
def State.initial : State :=
  ⟨0x67452301, 0xEFCDAB89, 0x98BADCFE, 0x10325476, 0xC3D2E1F0⟩

/-- Rotation to the left by less than a word. -/
def rotateLeft (x : UInt32) (k : UInt32) : UInt32 :=
  (x <<< k) ||| (x >>> (32 - k))

/-- The bytes of a number, most significant first. -/
def bigEndian : Nat → Nat → List UInt8
  | 0, _ => []
  | count + 1, n => UInt8.ofNat (n / Nat.pow 256 count % 256) :: bigEndian count n

/-- The word made of four bytes, most significant first. -/
def word (bytes : List UInt8) : UInt32 :=
  bytes.foldl (fun acc byte => (acc <<< 8) ||| byte.toUInt32) 0

/-- A message followed by a one bit, zeros, and its length in bits. -/
def padded (message : List UInt8) : List UInt8 :=
  message ++ [0x80] ++ List.replicate ((119 - message.length % 64) % 64) 0 ++
    bigEndian 8 (8 * message.length)

/-- The first `count` pieces of `size` bytes. -/
def pieces (size : Nat) : Nat → List UInt8 → List (List UInt8)
  | 0, _ => []
  | count + 1, bytes => bytes.take size :: pieces size count (bytes.drop size)

/-- The eighty words of a block: its own sixteen, and sixty-four made from earlier ones. -/
def schedule (block : List UInt8) : Array UInt32 :=
  let own := ((pieces 4 16 block).map word).toArray
  (List.range 64).foldl
    (fun ws t =>
      let mixed := ws.getD (t + 13) 0 ^^^ ws.getD (t + 8) 0 ^^^ ws.getD (t + 2) 0 ^^^ ws.getD t 0
      ws.push (rotateLeft mixed 1))
    own

/-- The logical function and the constant of a round. -/
def mixer (round : Nat) (b c d : UInt32) : UInt32 × UInt32 :=
  if round < 20 then ((b &&& c) ||| ((~~~ b) &&& d), 0x5A827999)
  else if round < 40 then (b ^^^ c ^^^ d, 0x6ED9EBA1)
  else if round < 60 then ((b &&& c) ||| (b &&& d) ||| (c &&& d), 0x8F1BBCDC)
  else (b ^^^ c ^^^ d, 0xCA62C1D6)

/-- One round. -/
def round (words : Array UInt32) (s : State) (t : Nat) : State :=
  let (f, k) := mixer t s.b s.c s.d
  let next := rotateLeft s.a 5 + f + s.e + k + words.getD t 0
  ⟨next, s.a, rotateLeft s.b 30, s.c, s.d⟩

/-- The state after one more block. -/
def compress (s : State) (block : List UInt8) : State :=
  let words := schedule block
  let t := (List.range 80).foldl (round words) s
  ⟨s.a + t.a, s.b + t.b, s.c + t.c, s.d + t.d, s.e + t.e⟩

/-- The bytes of a state. -/
def State.bytes (s : State) : List UInt8 :=
  [s.a, s.b, s.c, s.d, s.e].flatMap fun w => bigEndian 4 w.toNat

/-- The digest of a message. -/
def digest (message : List UInt8) : List UInt8 :=
  let bytes := padded message
  ((pieces 64 (bytes.length / 64) bytes).foldl compress State.initial).bytes

/-! ## Lengths -/

theorem length_bigEndian (count n : Nat) : (bigEndian count n).length = count := by
  induction count with
  | zero => rfl
  | succ count ih => simp [bigEndian, ih]

theorem length_padded (message : List UInt8) : (padded message).length % 64 = 0 := by
  simp only [padded, List.length_append, List.length_cons, List.length_nil,
    List.length_replicate, length_bigEndian]
  omega

theorem length_digest (message : List UInt8) : (digest message).length = 20 := by
  simp [digest, State.bytes, length_bigEndian]

end ControlPlane.Digest.Sha1
