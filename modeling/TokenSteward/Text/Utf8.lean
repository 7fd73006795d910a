/-! # UTF-8

A text is written to bytes character by character. Reading marks each byte that belongs to no
character with `none`, so that a reader of the result decides itself where a broken byte matters.
The lead byte of a character says how many tail bytes it is owed.
-/

namespace TokenSteward.Text.Utf8

/-- The bytes of a text. -/
def encode (s : List Char) : List UInt8 := s.flatMap String.utf8EncodeChar

/-- The tail bytes owed after a lead byte, its payload and the least code point of that length. -/
def lead (b : UInt8) : Option (Nat × Nat × Nat) :=
  if b < 0x80 then some (0, b.toNat, 0)
  else if b < 0xC2 then none
  else if b < 0xE0 then some (1, b.toNat - 0xC0, 0x80)
  else if b < 0xF0 then some (2, b.toNat - 0xE0, 0x800)
  else if b < 0xF5 then some (3, b.toNat - 0xF0, 0x10000)
  else none

/-- Whether a byte continues a character. -/
def isTail (b : UInt8) : Bool := 0x80 ≤ b && b < 0xC0

/-- The character that a lead byte and those behind it write, and how many tail bytes it took. -/
def char? (b : UInt8) (behind : List UInt8) : Option (Char × Nat) := do
  let (owed, payload, least) ← lead b
  let tail := behind.take owed
  if tail.length = owed ∧ tail.all isTail then
    let point := tail.foldl (fun n t => n * 64 + (t.toNat - 0x80)) payload
    if least ≤ point ∧ point.isValidChar then some (Char.ofNat point, owed) else none
  else none

/-- The characters of a byte sequence, with `none` for each byte that belongs to no character. -/
def decode : List UInt8 → List (Option Char)
  | [] => []
  | b :: behind =>
    match char? b behind with
    | some (c, owed) => some c :: decode (behind.drop owed)
    | none => none :: decode behind
termination_by bytes => bytes.length
decreasing_by all_goals simp; try omega

end TokenSteward.Text.Utf8
