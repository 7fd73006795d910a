import TokenSteward.Number.Digits
import TokenSteward.Number.Binary64

/-! # The shortest text of a double

Of the decimals that round to a given double the one with the fewest digits is written, of two
with equally many the nearer. Small and middle exponents are written positionally, with at least
one decimal; other numbers with an exponent that carries its sign.
-/

namespace TokenSteward.Number.Binary64

/-- The decimals that round to a double: all between the two ends, the ends only if closed. -/
structure Basin where
  low : Ratio
  high : Ratio
  closed : Bool

/-- `a ≤ b` for rational numbers. -/
def Ratio.le (a b : Ratio) : Bool := a.num * b.den ≤ b.num * a.den

/-- `a < b` for rational numbers. -/
def Ratio.lt (a b : Ratio) : Bool := a.num * b.den < b.num * a.den

/-- The basin of a positive double. The gap below a power of two is half as wide. -/
def basin (b : Binary64) : Basin :=
  let narrow := b.mantissa = Nat.pow 2 52 ∧ leastExponent < b.exponent
  let low : Ratio := if narrow then ⟨4 * b.mantissa - 1, 4⟩ else ⟨2 * b.mantissa - 1, 2⟩
  ⟨low.scaled b.exponent, (⟨2 * b.mantissa + 1, 2⟩ : Ratio).scaled b.exponent, b.mantissa % 2 = 0⟩

/-- Whether a rational number rounds to the double. -/
def Basin.holds (s : Basin) (r : Ratio) : Bool :=
  if s.closed then s.low.le r && r.le s.high else s.low.lt r && r.lt s.high

/-- `n · 10 ^ e`. -/
def decimal (n : Nat) (e : Int) : Ratio :=
  if 0 ≤ e then ⟨n * Nat.pow 10 e.toNat, 1⟩ else ⟨n, Nat.pow 10 (-e).toNat⟩

/-- The power of ten at or below a positive rational number: `10 ^ e ≤ r < 10 ^ (e + 1)`. -/
def magnitude (r : Ratio) : Int :=
  if r.den ≤ r.num then ((digits (r.num / r.den)).length : Int) - 1
  else
    let guess := (digits (r.den / r.num)).length
    if r.den ≤ r.num * Nat.pow 10 (guess - 1) then 1 - (guess : Int) else - (guess : Int)

/-- On the grid of `10 ^ e`, the point nearest to the double among those that round to it. -/
def gridPoint? (b : Binary64) (e : Int) : Option Nat :=
  let r := b.toRatio
  let unit := decimal 1 e
  let below := (r.num * unit.den) / (r.den * unit.num)
  let rest := (r.num * unit.den) % (r.den * unit.num)
  let lowIn := b.basin.holds (decimal below e)
  let highIn := b.basin.holds (decimal (below + 1) e)
  if lowIn && highIn then
    if 2 * rest < r.den * unit.num then some below
    else if r.den * unit.num < 2 * rest then some (below + 1)
    else some (below + below % 2)
  else if lowIn then some below
  else if highIn then some (below + 1)
  else none

/-- The fewest decimal digits that round to a positive double, tried from `count` digits on, with
the exponent of the last digit. -/
def fewest (b : Binary64) (count : Nat) : Nat → Nat × Int
  | 0 => (0, 0)
  | more + 1 =>
    let e := magnitude b.toRatio - (count : Int) + 1
    match gridPoint? b e with
    | some n => (n, e)
    | none => fewest b (count + 1) more

/-- A digit sequence and an exponent, without zeros at the end. -/
def stripped (ds : List Char) (e : Int) : List Char × Int :=
  let zeros := (ds.reverse.takeWhile (· == '0')).length
  (ds.take (ds.length - zeros), e + zeros)

/-- The leading exponents between which a layout is positional. -/
structure Layout where
  leastPositional : Int
  greatestPositional : Int

/-- The text of `0.d₁d₂… · 10 ^ (point)` in a layout, from the significant digits. -/
def Layout.text (l : Layout) (ds : List Char) (last : Int) : List Char :=
  let lead : Int := last + ds.length - 1
  if l.leastPositional ≤ lead ∧ lead ≤ l.greatestPositional then
    if 0 ≤ last then ds ++ List.replicate last.toNat '0' ++ ['.', '0']
    else if 0 ≤ lead then ds.take (lead + 1).toNat ++ '.' :: ds.drop (lead + 1).toNat
    else ['0', '.'] ++ List.replicate (-lead - 1).toNat '0' ++ ds
  else
    let power := digits lead.natAbs
    let sign := if lead < 0 then '-' else '+'
    let front := match ds with
      | [] => []
      | [d] => [d]
      | d :: more => d :: '.' :: more
    front ++ 'e' :: sign :: power

/-- Positional from a hundred-thousandth up to sixteen whole digits. -/
def plain : Layout := ⟨-5, 15⟩

/-- The text of a double. -/
def text (negative : Bool) (b : Binary64) : String :=
  let body :=
    if b.isZero then ['0', '.', '0']
    else
      let point := fewest b 1 17
      let short := stripped (digits point.1) point.2
      plain.text short.1 short.2
  String.ofList (if negative then '-' :: body else body)

end TokenSteward.Number.Binary64
