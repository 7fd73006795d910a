import TokenSteward.Digest.Sha256

/-! # Keyed digest

HMAC over SHA-256: the key is brought to one block, a long one by its digest and a short one by
zeros, and mixed into an inner and an outer digest.
-/

namespace TokenSteward.Digest

/-- The key brought to the sixty-four bytes of a block. -/
def blockKey (key : List UInt8) : List UInt8 :=
  let short := if key.length ≤ 64 then key else Sha256.digest key
  short ++ List.replicate (64 - short.length) 0

/-- The keyed digest of a message. -/
def hmac (key message : List UInt8) : List UInt8 :=
  let block := blockKey key
  let inner := Sha256.digest (block.map (· ^^^ 0x36) ++ message)
  Sha256.digest (block.map (· ^^^ 0x5c) ++ inner)

end TokenSteward.Digest
