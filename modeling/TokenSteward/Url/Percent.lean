import TokenSteward.Number.Digits
import TokenSteward.Text.Utf8

/-! # Percent encoding

A byte that must not stand in a part of a URL as it is stands as `%` and two digits. Every byte
beyond ASCII is written so; which ASCII characters are depends on the part.
-/

namespace TokenSteward.Url

open TokenSteward.Number TokenSteward.Text

/-- The ASCII characters that a part of a URL writes by number, besides the control characters. -/
abbrev Escapes := List Char

/-- What is escaped in an opaque path and an opaque host. -/
def controlEscapes : Escapes := []

/-- What is escaped in a fragment. -/
def fragmentEscapes : Escapes := [' ', '"', '<', '>', '\x60']

/-- What is escaped in a path. -/
def pathEscapes : Escapes := fragmentEscapes ++ ['#', '?', '\x7b', '\x7d']

/-- What is escaped in user information. -/
def userEscapes : Escapes := pathEscapes ++ ['/', ':', ';', '=', '@', '[', '\\', ']', '^', '|']

/-- What is escaped in a query. -/
def queryEscapes : Escapes := [' ', '"', '#', '<', '>']

/-- What is escaped in the query of a special scheme. -/
def specialQueryEscapes : Escapes := queryEscapes ++ ['\'']

/-- A hexadecimal digit in upper case. -/
def upperDigit (n : Nat) : Char := if n < 10 then Char.ofNat (48 + n) else Char.ofNat (55 + n)

/-- One byte written by number. -/
def percentByte (b : UInt8) : List Char :=
  ['%', upperDigit (b.toNat / 16), upperDigit (b.toNat % 16)]

/-- Whether a character is written by number. -/
def isEscaped (escapes : Escapes) (c : Char) : Bool :=
  c.toNat < 0x20 || 0x7F ≤ c.toNat || escapes.contains c

/-- A text with the characters that need it written by number. -/
def percentEncode (escapes : Escapes) (s : List Char) : List Char :=
  s.flatMap fun c => if isEscaped escapes c then (Utf8.encode [c]).flatMap percentByte else [c]

/-- The bytes of a text in which `%` and two digits stand for a byte. -/
def percentDecode : List Char → List UInt8
  | [] => []
  | ['%'] => Utf8.encode ['%']
  | ['%', c] => Utf8.encode ['%', c]
  | '%' :: c :: d :: rest =>
    match hexDigit? c, hexDigit? d with
    | some high, some low => UInt8.ofNat (high * 16 + low) :: percentDecode rest
    | _, _ => Utf8.encode ['%'] ++ percentDecode (c :: d :: rest)
  | c :: rest => Utf8.encode [c] ++ percentDecode rest

end TokenSteward.Url
