/-! # Base64

Three bytes become four symbols of six bits. An alphabet fixes the last two symbols and whether a
short last group is padded. Reading accepts written form only: no foreign symbol, no padding where
none is written, none missing where it is, and no bit set that belongs to no byte.
-/

namespace TokenSteward.Text.Base64

/-- The symbols for 62 and 63, and whether the last group is filled up with `=`. -/
structure Alphabet where
  symbol62 : Char
  symbol63 : Char
  padded : Bool
deriving DecidableEq, Repr

/-- The common alphabet, padded. -/
def standard : Alphabet := ⟨'+', '/', true⟩

/-- The alphabet whose symbols stand in a URL as they are, unpadded. -/
def urlSafe : Alphabet := ⟨'-', '_', false⟩

/-- The symbol of a six-bit value. -/
def Alphabet.symbol (a : Alphabet) (n : Nat) : Char :=
  if n < 26 then Char.ofNat (65 + n)
  else if n < 52 then Char.ofNat (71 + n)
  else if n < 62 then Char.ofNat (n - 4)
  else if n = 62 then a.symbol62 else a.symbol63

/-- The six-bit value of a symbol. -/
def Alphabet.value? (a : Alphabet) (c : Char) : Option Nat :=
  if 'A' ≤ c ∧ c ≤ 'Z' then some (c.toNat - 65)
  else if 'a' ≤ c ∧ c ≤ 'z' then some (c.toNat - 71)
  else if '0' ≤ c ∧ c ≤ '9' then some (c.toNat + 4)
  else if c = a.symbol62 then some 62
  else if c = a.symbol63 then some 63
  else none

/-- What fills up a short last group. -/
def Alphabet.filling (a : Alphabet) (count : Nat) : List Char :=
  if a.padded then List.replicate count '=' else []

/-- The symbols of a byte sequence. -/
def encode (a : Alphabet) : List UInt8 → List Char
  | [] => []
  | [x] =>
    let n := x.toNat
    a.symbol (n / 4) :: a.symbol (n % 4 * 16) :: a.filling 2
  | [x, y] =>
    let n := x.toNat * 256 + y.toNat
    a.symbol (n / 1024) :: a.symbol (n / 16 % 64) :: a.symbol (n % 16 * 4) :: a.filling 1
  | x :: y :: z :: rest =>
    let n := (x.toNat * 256 + y.toNat) * 256 + z.toNat
    a.symbol (n / 262144) :: a.symbol (n / 4096 % 64) :: a.symbol (n / 64 % 64)
      :: a.symbol (n % 64) :: encode a rest

/-- The byte of two symbols, whose last four bits must be clear. -/
def one? (a : Alphabet) (w x : Char) : Option (List UInt8) := do
  let n := (← a.value? w) * 64 + (← a.value? x)
  if n % 16 = 0 then some [UInt8.ofNat (n / 16)] else none

/-- The bytes of three symbols, whose last two bits must be clear. -/
def two? (a : Alphabet) (w x y : Char) : Option (List UInt8) := do
  let n := ((← a.value? w) * 64 + (← a.value? x)) * 64 + (← a.value? y)
  if n % 4 = 0 then some [UInt8.ofNat (n / 1024), UInt8.ofNat (n / 4 % 256)] else none

/-- The bytes of four symbols. -/
def three? (a : Alphabet) (w x y z : Char) : Option (List UInt8) := do
  let n := (((← a.value? w) * 64 + (← a.value? x)) * 64 + (← a.value? y)) * 64 + (← a.value? z)
  some [UInt8.ofNat (n / 65536), UInt8.ofNat (n / 256 % 256), UInt8.ofNat (n % 256)]

/-- The bytes that a text of symbols is the written form of, if it is one. -/
def decode (a : Alphabet) : List Char → Option (List UInt8)
  | [] => some []
  | [_] => none
  | [w, x] => if a.padded then none else one? a w x
  | [w, x, y] => if a.padded then none else two? a w x y
  | w :: x :: y :: z :: rest =>
    if a.padded ∧ z = '=' ∧ rest = [] then
      if y = '=' then one? a w x else two? a w x y
    else do
      let bytes ← three? a w x y z
      let more ← decode a rest
      some (bytes ++ more)

end TokenSteward.Text.Base64
