/-! # Double precision numbers

A non-negative double is `mantissa · 2 ^ exponent`, with a mantissa below `2 ^ 53`. Every operation
is the exact rational operation followed by one rounding to the nearest double, a tie going to the
even mantissa.
-/

namespace TokenSteward.Number

/-- A non-negative finite double. -/
structure Binary64 where
  mantissa : Nat
  exponent : Int
deriving DecidableEq, Repr, Inhabited

namespace Binary64

/-- The least exponent: below it a double only loses bits. -/
def leastExponent : Int := -1074

/-- A positive rational number, as a numerator and a denominator. -/
structure Ratio where
  num : Nat
  den : Nat
deriving DecidableEq, Repr

/-- `r · 2 ^ e`. -/
def Ratio.scaled (r : Ratio) (e : Int) : Ratio :=
  if 0 ≤ e then ⟨r.num * Nat.pow 2 e.toNat, r.den⟩ else ⟨r.num, r.den * Nat.pow 2 (-e).toNat⟩

/-- The quotient rounded to the nearest whole number, a tie going to the even one. -/
def Ratio.nearest (r : Ratio) : Nat :=
  let whole := r.num / r.den
  let twice := 2 * (r.num % r.den)
  if twice < r.den then whole
  else if r.den < twice then whole + 1
  else whole + whole % 2

/-- The number of binary digits. -/
def bitLength (n : Nat) : Nat := if n = 0 then 0 else n.log2 + 1

/-- The double nearest to a rational number, unless it lies beyond the largest double. -/
def ofRatio? (r : Ratio) : Option Binary64 :=
  if r.num = 0 then some ⟨0, leastExponent⟩
  else
    -- One of two exponents gives a quotient of fifty-three bits.
    let guess : Int := (bitLength r.num : Int) - bitLength r.den - 53
    let guess := if (r.scaled (-guess)).num / (r.scaled (-guess)).den < Nat.pow 2 53
      then guess else guess + 1
    let e := if guess < leastExponent then leastExponent else guess
    let m := (r.scaled (-e)).nearest
    let b : Binary64 := if m = Nat.pow 2 53 then ⟨Nat.pow 2 52, e + 1⟩ else ⟨m, e⟩
    if 971 < b.exponent then none else some b

/-- The exact value of a double. -/
def toRatio (b : Binary64) : Ratio := (⟨b.mantissa, 1⟩ : Ratio).scaled b.exponent

/-- The double nearest to a whole number. -/
def ofNat? (n : Nat) : Option Binary64 := ofRatio? ⟨n, 1⟩

/-- The product, rounded. -/
def mul? (a b : Binary64) : Option Binary64 :=
  ofRatio? ⟨a.toRatio.num * b.toRatio.num, a.toRatio.den * b.toRatio.den⟩

/-- The quotient, rounded. -/
def div? (a b : Binary64) : Option Binary64 :=
  ofRatio? ⟨a.toRatio.num * b.toRatio.den, a.toRatio.den * b.toRatio.num⟩

/-- Whether the double is zero. -/
def isZero (b : Binary64) : Bool := b.mantissa = 0

end Binary64

end TokenSteward.Number
