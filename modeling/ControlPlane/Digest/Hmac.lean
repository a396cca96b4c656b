import ControlPlane.Digest.Sha1

/-!
# Keyed digests

HMAC over SHA-1, as RFC 2104 defines it: keys longer than a block are digested first, shorter
ones are filled up with zeros, and the message is digested inside two keyed layers.

Main statement: `length_blockKey` — every key becomes exactly one block.
-/
namespace ControlPlane.Digest.Hmac

/-- The number of bytes in a block. -/
def blockSize : Nat := 64

/-- A key brought to the length of a block. -/
def blockKey (key : List UInt8) : List UInt8 :=
  let short := if key.length ≤ blockSize then key else Sha1.digest key
  short ++ List.replicate (blockSize - short.length) 0

/-- The keyed digest of a message. -/
def digest (key message : List UInt8) : List UInt8 :=
  let block := blockKey key
  let inner := Sha1.digest (block.map (· ^^^ 0x36) ++ message)
  Sha1.digest (block.map (· ^^^ 0x5C) ++ inner)

/-! ## Lengths -/

theorem length_blockKey (key : List UInt8) : (blockKey key).length = blockSize := by
  unfold blockKey
  split
  · simp only [List.length_append, List.length_replicate]
    omega
  · simp [Sha1.length_digest, blockSize]

theorem length_digest (key message : List UInt8) : (digest key message).length = 20 := by
  simp [digest, Sha1.length_digest]

end ControlPlane.Digest.Hmac
