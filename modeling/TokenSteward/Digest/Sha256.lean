/-! # SHA-256

The digest of FIPS 180-4: the message is padded to blocks of sixty-four bytes, each block gives a
schedule of sixty-four words, and sixty-four rounds mix the schedule into eight chaining words.
-/

namespace TokenSteward.Digest.Sha256

/-- Rotation to the right. -/
def rotate (x : UInt32) (n : UInt32) : UInt32 := (x >>> n) ||| (x <<< (32 - n))

/-- The first thirty-two bits of the fractional parts of the cube roots of the first primes. -/
def constants : List UInt32 :=
  [0x428a2f98, 0x71374491, 0xb5c0fbcf, 0xe9b5dba5, 0x3956c25b, 0x59f111f1, 0x923f82a4, 0xab1c5ed5,
    0xd807aa98, 0x12835b01, 0x243185be, 0x550c7dc3, 0x72be5d74, 0x80deb1fe, 0x9bdc06a7, 0xc19bf174,
    0xe49b69c1, 0xefbe4786, 0x0fc19dc6, 0x240ca1cc, 0x2de92c6f, 0x4a7484aa, 0x5cb0a9dc, 0x76f988da,
    0x983e5152, 0xa831c66d, 0xb00327c8, 0xbf597fc7, 0xc6e00bf3, 0xd5a79147, 0x06ca6351, 0x14292967,
    0x27b70a85, 0x2e1b2138, 0x4d2c6dfc, 0x53380d13, 0x650a7354, 0x766a0abb, 0x81c2c92e, 0x92722c85,
    0xa2bfe8a1, 0xa81a664b, 0xc24b8b70, 0xc76c51a3, 0xd192e819, 0xd6990624, 0xf40e3585, 0x106aa070,
    0x19a4c116, 0x1e376c08, 0x2748774c, 0x34b0bcb5, 0x391c0cb3, 0x4ed8aa4a, 0x5b9cca4f, 0x682e6ff3,
    0x748f82ee, 0x78a5636f, 0x84c87814, 0x8cc70208, 0x90befffa, 0xa4506ceb, 0xbef9a3f7, 0xc67178f2]

/-- The eight chaining words. -/
structure Chain where
  a : UInt32
  b : UInt32
  c : UInt32
  d : UInt32
  e : UInt32
  f : UInt32
  g : UInt32
  h : UInt32
deriving DecidableEq, Repr

/-- The chaining words before the first block. -/
def start : Chain :=
  ⟨0x6a09e667, 0xbb67ae85, 0x3c6ef372, 0xa54ff53a, 0x510e527f, 0x9b05688c, 0x1f83d9ab, 0x5be0cd19⟩

/-- The bytes of a word, the most significant first. -/
def wordBytes (w : UInt32) : List UInt8 :=
  [(w >>> 24).toUInt8, (w >>> 16).toUInt8, (w >>> 8).toUInt8, w.toUInt8]

/-- The words of a byte sequence, four bytes to a word. -/
def words : List UInt8 → List UInt32
  | a :: b :: c :: d :: rest =>
    ((a.toUInt32 <<< 24) ||| (b.toUInt32 <<< 16) ||| (c.toUInt32 <<< 8) ||| d.toUInt32)
      :: words rest
  | _ => []

/-- The message with the delimiter, zeros up to a whole block, and its length in bits. -/
def padded (message : List UInt8) : List UInt8 :=
  let bits := UInt64.ofNat (message.length * 8)
  let zeros := (119 - message.length % 64) % 64
  message ++ 0x80 :: List.replicate zeros (0 : UInt8)
    ++ wordBytes (bits >>> 32).toUInt32 ++ wordBytes bits.toUInt32

/-- The schedule with `count` words more, newest word first. -/
def extended : Nat → List UInt32 → List UInt32
  | 0, ws => ws
  | count + 1, ws =>
    let early := ws.getD 14 0
    let late := ws.getD 1 0
    let sigma0 := rotate early 7 ^^^ rotate early 18 ^^^ (early >>> 3)
    let sigma1 := rotate late 17 ^^^ rotate late 19 ^^^ (late >>> 10)
    extended count ((ws.getD 15 0 + sigma0 + ws.getD 6 0 + sigma1) :: ws)

/-- The sixty-four words that a block brings to the rounds. -/
def schedule (block : List UInt32) : List UInt32 := (extended 48 block.reverse).reverse

/-- One round with its constant and its word of the schedule. -/
def round (s : Chain) (k w : UInt32) : Chain :=
  let sum1 := rotate s.e 6 ^^^ rotate s.e 11 ^^^ rotate s.e 25
  let choice := (s.e &&& s.f) ^^^ ((~~~ s.e) &&& s.g)
  let first := s.h + sum1 + choice + k + w
  let sum0 := rotate s.a 2 ^^^ rotate s.a 13 ^^^ rotate s.a 22
  let majority := (s.a &&& s.b) ^^^ (s.a &&& s.c) ^^^ (s.b &&& s.c)
  ⟨first + (sum0 + majority), s.a, s.b, s.c, s.d + first, s.e, s.f, s.g⟩

/-- The chaining words after one block. -/
def compress (s : Chain) (block : List UInt32) : Chain :=
  let t := (constants.zip (schedule block)).foldl (fun t kw => round t kw.1 kw.2) s
  ⟨s.a + t.a, s.b + t.b, s.c + t.c, s.d + t.d, s.e + t.e, s.f + t.f, s.g + t.g, s.h + t.h⟩

/-- The chaining words after all blocks of sixteen words. -/
def absorb (s : Chain) : List UInt32 → Chain
  | a :: rest => absorb (compress s (a :: rest.take 15)) (rest.drop 15)
  | [] => s
termination_by ws => ws.length
decreasing_by rw [List.length_drop, List.length_cons]; omega

/-- The thirty-two bytes of a message's digest. -/
def digest (message : List UInt8) : List UInt8 :=
  let s := absorb start (words (padded message))
  [s.a, s.b, s.c, s.d, s.e, s.f, s.g, s.h].flatMap wordBytes

end TokenSteward.Digest.Sha256
