/-! # Punycode

A label beyond ASCII is written as its ASCII characters and a sequence of numbers. Each number says
how many places are skipped before the next character is put in, counted over all characters in
ascending order and all places of the label. A number is written from its least digit on, with a
threshold for each digit that follows the size of the numbers before it.
-/

namespace TokenSteward.Url.Punycode

/-- The character of a digit below thirty-six. -/
def digitSymbol (d : Nat) : Char := if d < 26 then Char.ofNat (97 + d) else Char.ofNat (22 + d)

/-- The value of a digit. -/
def digit? (c : Char) : Option Nat :=
  if 'a' ≤ c ∧ c ≤ 'z' then some (c.toNat - 97)
  else if 'A' ≤ c ∧ c ≤ 'Z' then some (c.toNat - 65)
  else if '0' ≤ c ∧ c ≤ '9' then some (c.toNat - 22)
  else none

/-- The threshold of a digit at a place, from one to twenty-six. -/
def threshold (place bias : Nat) : Nat := max 1 (min 26 (place - bias))

/-- A number brought below 456 by divisions, with the places that they took. -/
def damped (n places : Nat) : Nat × Nat :=
  if 455 < n then damped (n / 35) (places + 36) else (n, places)
termination_by n
decreasing_by omega

/-- The bias for the next number after a number, for a label of a length. -/
def adapted (n length : Nat) (first : Bool) : Nat :=
  let start := if first then n / 700 else n / 2
  let (rest, places) := damped (start + start / length) 0
  places + 36 * rest / (rest + 38)

/-- The digits of a number from a place on. -/
def numberDigits (bias place n : Nat) : List Char :=
  let t := threshold place bias
  if n < t then [digitSymbol n]
  else digitSymbol (t + (n - t) % (36 - t)) :: numberDigits bias (place + 36) ((n - t) / (36 - t))
termination_by n
decreasing_by
  have low : 1 ≤ threshold place bias := by simp only [threshold]; omega
  have step := Nat.div_le_self (n - threshold place bias) (36 - threshold place bias)
  omega

/-- What has been written of a label, and what the next number is counted from. -/
structure Progress where
  written : List Char
  skipped : Nat
  bias : Nat
  count : Nat

/-- The progress of a label past one of its characters, while a code point is put in. -/
def passed (basic point : Nat) (p : Progress) (c : Char) : Progress :=
  if c.toNat < point then { p with skipped := p.skipped + 1 }
  else if c.toNat = point then
    ⟨p.written ++ numberDigits p.bias 36 p.skipped, 0,
      adapted p.skipped (p.count + 1) (p.count == basic), p.count + 1⟩
  else p

/-- Puts in code points in ascending order; `next` is the least one not counted yet. -/
def putIn (label : List Char) (basic : Nat) : List Nat → Nat → Progress → Progress
  | [], _, p => p
  | point :: more, next, p =>
    let p := { p with skipped := p.skipped + (point - next) * (p.count + 1) }
    let p := label.foldl (passed basic point) p
    putIn label basic more (point + 1) { p with skipped := p.skipped + 1 }

/-- The code points beyond ASCII in ascending order, each once. -/
def pointsBeyond (label : List Char) : List Nat :=
  ((label.map Char.toNat).filter (128 ≤ ·)).mergeSort.eraseDups

/-- The written form of a label. -/
def encode (label : List Char) : List Char :=
  let basic := label.filter (·.toNat < 128)
  let front := if basic.isEmpty then [] else basic ++ ['-']
  front ++ (putIn label basic.length (pointsBeyond label) 128 ⟨[], 0, 72, basic.length⟩).written

/-- The largest number and weight. -/
def largest : Nat := UInt32.size - 1

/-- Reads a number, added to `n`: the sum and what follows the number. -/
def number? (bias : Nat) : List Char → Nat → Nat → Nat → Option (Nat × List Char)
  | [], _, _, _ => none
  | c :: rest, place, weight, n => do
    let d ← digit? c
    let t := threshold place bias
    let n := n + d * weight
    if largest < n then none
    else if d < t then some (n, rest)
    else if largest < weight * (36 - t) then none
    else number? bias rest (place + 36) (weight * (36 - t)) n

/-- Puts characters into a label as the numbers of a text say. -/
def readIn : Nat → List Char → Nat → Nat → Nat → List Char → Option (List Char)
  | _, [], _, _, _, label => some label
  | 0, _ :: _, _, _, _, _ => none
  | fuel + 1, text, point, place, bias, label => do
    let (sum, rest) ← number? bias text 36 1 place
    let length := label.length + 1
    let point := point + sum / length
    let spot := sum % length
    if point.isValidChar then
      readIn fuel rest point (spot + 1) (adapted (sum - place) length (place == 0))
        (label.take spot ++ Char.ofNat point :: label.drop spot)
    else none

/-- The label of a written form. A hyphen divides it only behind some characters. -/
def decode? (text : List Char) : Option (List Char) :=
  let tail := (text.reverse.takeWhile (· != '-')).reverse
  let front := text.take (text.length - tail.length - 1)
  if front.isEmpty && text.contains '-' then none
  else if front.all (·.toNat < 128) then readIn (text.length + 1) tail 128 0 72 front
  else none

end TokenSteward.Url.Punycode
