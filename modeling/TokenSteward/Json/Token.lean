import TokenSteward.Json.Fault

/-! # The words of a data text

Strings, numbers, fixed words and blanks, each read off the front of a symbol sequence. A symbol is
a character, or `none` for a byte that belongs to none; such a byte is harmless in a string that is
only skipped.
-/

namespace TokenSteward.Json

open TokenSteward.Number

/-- The input of a reader: characters, and `none` for each byte that belongs to no character. -/
abbrev Symbols := List (Option Char)

/-- A text as symbols. -/
def symbols (s : String) : Symbols := s.toList.map some

/-- Whether a symbol is a blank between two words. -/
def isGap : Option Char → Bool
  | some ' ' | some '\n' | some '\t' | some '\r' => true
  | _ => false

/-- The input behind the blanks at its front. -/
def skipGap (s : Symbols) : Symbols := s.dropWhile isGap

/-- Reads the rest of a fixed word. -/
def readWord : List Char → Symbols → Except Cause Symbols
  | [], s => .ok s
  | _ :: _, [] => .error (.ended .value)
  | c :: word, x :: s => if x = some c then readWord word s else .error .wordExpected

/-! ## Strings -/

/-- The number of bytes of a symbol. -/
def width : Option Char → Nat
  | some c => c.utf8Size
  | none => 1

/-- Reads the four digits of a hexadecimal escape. -/
def readHex (s : Symbols) : Except Cause (Nat × { r : Symbols // r.length ≤ s.length }) :=
  match (s.take 4).mapM fun x => x.bind hexDigit? with
  | some [a, b, c, d] =>
    .ok (((a * 16 + b) * 16 + c) * 16 + d, ⟨s.drop 4, by simp⟩)
  | _ => .error (if (s.take 4).foldr (fun x n => width x + n) 0 < 4 then .ended .string else .badEscape)

/-- Reads what follows the `u` of an escape: one unit, or two that form a pair. -/
def readUnicode (s : Symbols) : Except Cause (Char × { r : Symbols // r.length ≤ s.length }) := do
  let (n, ⟨s1, le1⟩) ← readHex s
  if 0xDC00 ≤ n ∧ n ≤ 0xDFFF then .error .loneSurrogate
  else if n < 0xD800 ∨ 0xDBFF < n then .ok (Char.ofNat n, ⟨s1, le1⟩)
  else match s1, le1 with
    | some '\\' :: some 'u' :: s2, le1 => do
      let (m, ⟨s3, le3⟩) ← readHex s2
      if m < 0xDC00 ∨ 0xDFFF < m then .error .loneSurrogate
      else .ok (Char.ofNat ((n - 0xD800) * 0x400 + (m - 0xDC00) + 0x10000),
        ⟨s3, by simp only [List.length_cons] at le1; omega⟩)
    | [], _ | [some '\\'], _ => .error (.ended .string)
    | _, _ => .error .shortHexEscape

/-- Reads what follows the backslash of an escape. -/
def readEscape : (s : Symbols) → Except Cause (Char × { r : Symbols // r.length ≤ s.length })
  | [] => .error (.ended .string)
  | some 'u' :: s => do
    let (c, ⟨r, le⟩) ← readUnicode s
    .ok (c, ⟨r, by simp; omega⟩)
  | some c :: s =>
    let plain (d : Char) :
        Except Cause (Char × { r : Symbols // r.length ≤ (some c :: s).length }) :=
      .ok (d, ⟨s, by simp⟩)
    match c with
    | '"' => plain '"'
    | '\\' => plain '\\'
    | '/' => plain '/'
    | 'b' => plain '\x08'
    | 'f' => plain '\x0c'
    | 'n' => plain '\n'
    | 'r' => plain '\r'
    | 't' => plain '\t'
    | _ => .error .badEscape
  | none :: _ => .error .badEscape

/-- Reads the characters of a string behind its opening quote. -/
def readBody : Symbols → Except Cause (Symbols × Symbols)
  | [] => .error (.ended .string)
  | some '"' :: s => .ok ([], s)
  | some '\\' :: s => do
    let (c, ⟨r, _⟩) ← readEscape s
    let (body, rest) ← readBody r
    .ok (some c :: body, rest)
  | some c :: s => do
    if c.toNat < 0x20 then .error .controlCharacter
    else
      let (body, rest) ← readBody s
      .ok (some c :: body, rest)
  | none :: s => do
    let (body, rest) ← readBody s
    .ok (none :: body, rest)
termination_by s => s.length
decreasing_by all_goals simp_all; try omega

/-- Reads a string behind its opening quote. Every byte of it must belong to a character. -/
def readString (s : Symbols) : Except Cause (String × Symbols) := do
  let (body, rest) ← readBody s
  match body.mapM id with
  | some cs => .ok (String.ofList cs, rest)
  | none => .error .badCharacter

/-- Skips what follows the backslash of an escape. -/
def skipEscape : (s : Symbols) → Except Cause { r : Symbols // r.length ≤ s.length }
  | [] => .error (.ended .string)
  | some 'u' :: s => do
    let (_, ⟨r, le⟩) ← readHex s
    .ok ⟨r, by simp; omega⟩
  | some c :: s =>
    if c ∈ ['"', '\\', '/', 'b', 'f', 'n', 'r', 't'] then .ok ⟨s, by simp⟩ else .error .badEscape
  | none :: _ => .error .badEscape

/-- Skips a string behind its opening quote; lone surrogates and broken bytes pass. -/
def skipString : Symbols → Except Cause Symbols
  | [] => .error (.ended .string)
  | some '"' :: s => .ok s
  | some '\\' :: s => do
    let ⟨r, _⟩ ← skipEscape s
    skipString r
  | some c :: s => if c.toNat < 0x20 then .error .controlCharacter else skipString s
  | none :: s => skipString s
termination_by s => s.length
decreasing_by all_goals simp_all; try omega

/-! ## Numbers -/

/-- The digit at the front of the input. -/
def frontDigit? : Symbols → Option Nat
  | some c :: _ => if isDigit c then some (digitValue c) else none
  | _ => none

/-- The digits at the front of the input, and the rest. -/
def spanDigits : Symbols → List Nat × Symbols
  | [] => ([], [])
  | x :: s =>
    match frontDigit? (x :: s) with
    | some d => let (ds, rest) := spanDigits s; (d :: ds, rest)
    | none => ([], x :: s)

/-- The largest number of sixty-four bits. -/
def maxWord : Nat := UInt64.size - 1

/-- Digits taken into a significand as long as it has sixty-four bits, and the digits left over. -/
def gather : Nat → List Nat → Nat × List Nat
  | n, [] => (n, [])
  | n, d :: ds => if maxWord < n * 10 + d then (n, d :: ds) else gather (n * 10 + d) ds

/-- The double of a significand and a power of ten: one rounding for the significand, one for each
multiplication or division by a power of ten. Only magnitudes below the largest are divided; a
product beyond the largest double has no value. -/
def scale? (f : Binary64) (e : Int) : Nat → Option Binary64
  | 0 => some f
  | fuel + 1 =>
    if e.natAbs ≤ 308 then do
      let power ← Binary64.ofNat? (Nat.pow 10 e.natAbs)
      if 0 ≤ e then f.mul? power else f.div? power
    else if f.isZero then some f
    else if 0 ≤ e then none
    else do
      let f ← f.div? (← Binary64.ofNat? (Nat.pow 10 308))
      scale? f (e + 308) fuel

/-- The double of a significand and a power of ten. -/
def toDouble (negative : Bool) (significand : Nat) (e : Int) : Except Cause Numeral :=
  match (Binary64.ofNat? significand).bind fun f => scale? f e (e.natAbs / 308 + 2) with
  | some size => .ok (.double negative size)
  | none => .error .numberTooLarge

/-- The largest exponent that is told apart from a larger one. -/
def maxExponent : Nat := Nat.pow 2 31 - 1

/-- Reads the exponent of a number behind its `e`. -/
def readExponent (negative : Bool) (significand : Nat) (e : Int) (s : Symbols) :
    Except Cause (Numeral × Symbols) :=
  let (down, s) := match s with
    | some '+' :: s => (false, s)
    | some '-' :: s => (true, s)
    | s => (false, s)
  match spanDigits s with
  | ([], []) => .error (.ended .value)
  | ([], _) => .error .badNumber
  | (ds, rest) => do
    let power := ds.foldl (fun n d => n * 10 + d) 0
    if maxExponent < power then
      if significand ≠ 0 ∧ !down then .error .numberTooLarge
      else .ok (.double negative ⟨0, Binary64.leastExponent⟩, rest)
    else
      let n ← toDouble negative significand (if down then e - power else e + power)
      .ok (n, rest)

/-- Reads the rest of a number that is no whole number: an exponent, or nothing. -/
def readTail (negative : Bool) (significand : Nat) (e : Int) :
    Symbols → Except Cause (Numeral × Symbols)
  | some 'e' :: s | some 'E' :: s => readExponent negative significand e s
  | s => do .ok (← toDouble negative significand e, s)

/-- Reads the decimals of a number behind its point. Decimals that the significand cannot take are
left out. -/
def readDecimals (negative : Bool) (significand : Nat) (e : Int) (s : Symbols) :
    Except Cause (Numeral × Symbols) :=
  match spanDigits s with
  | ([], []) => .error (.ended .value)
  | ([], _) => .error .badNumber
  | (ds, rest) =>
    let (n, left) := gather significand ds
    readTail negative n (e - (ds.length - left.length : Nat)) rest

/-- Reads a number without its sign. A whole number of sixty-four bits stays whole, any other
becomes a double. -/
def readUnsigned (negative : Bool) (s : Symbols) : Except Cause (Numeral × Symbols) :=
  match spanDigits s with
  | ([], []) => .error (.ended .value)
  | ([], _) => .error .badNumber
  | (0 :: _ :: _, _) => .error .badNumber
  | (ds, rest) =>
    let (n, left) := gather 0 ds
    match rest with
    | some '.' :: s => readDecimals negative n left.length s
    | some 'e' :: s | some 'E' :: s => readExponent negative n left.length s
    | s =>
      if left.isEmpty ∧ !negative then .ok (.whole n, s)
      else if left.isEmpty ∧ 0 < n ∧ n ≤ Nat.pow 2 63 then .ok (.whole (-(n : Int)), s)
      else do .ok (← toDouble negative n left.length, s)

/-- Reads a number. -/
def readNumber : Symbols → Except Cause (Numeral × Symbols)
  | some '-' :: s => readUnsigned true s
  | s => readUnsigned false s

/-- Skips an exponent behind its `e`. -/
def skipExponent (s : Symbols) : Except Cause Symbols :=
  let s := match s with
    | some '+' :: s | some '-' :: s => s
    | s => s
  match spanDigits s with
  | ([], _) => .error .badNumber
  | (_, rest) => .ok rest

/-- Skips a number without its sign, of any size. -/
def skipUnsigned (s : Symbols) : Except Cause Symbols :=
  match spanDigits s with
  | ([], _) => .error .badNumber
  | (0 :: _ :: _, _) => .error .badNumber
  | (_, some '.' :: s) =>
    match spanDigits s with
    | ([], _) => .error .badNumber
    | (_, some 'e' :: s) | (_, some 'E' :: s) => skipExponent s
    | (_, s) => .ok s
  | (_, some 'e' :: s) | (_, some 'E' :: s) => skipExponent s
  | (_, s) => .ok s

end TokenSteward.Json
