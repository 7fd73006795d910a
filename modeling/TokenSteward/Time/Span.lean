import TokenSteward.Number.Digits

/-! # Spans of time

A span is a number of nanoseconds. Whole seconds of sixty-four bits and a fraction can be told
apart, so there is a greatest span; doubling stops there. A difference of two instants has a sign
and is counted in nanoseconds too.
-/

namespace TokenSteward.Time

open TokenSteward.Number

/-- A length of time in nanoseconds. -/
structure Span where
  nanos : Nat
deriving DecidableEq, Repr, Inhabited

namespace Span

/-- A number of seconds. -/
def seconds (n : Nat) : Span := ⟨n * 1000000000⟩

/-- A number of milliseconds. -/
def millis (n : Nat) : Span := ⟨n * 1000000⟩

/-- The greatest span there is. -/
def greatest : Span := ⟨UInt64.size * 1000000000 - 1⟩

/-- The empty span. -/
def zero : Span := ⟨0⟩

/-- Whether a span is empty. -/
def isZero (s : Span) : Bool := s.nanos = 0

/-- The shorter of two spans. -/
def min (a b : Span) : Span := ⟨Nat.min a.nanos b.nanos⟩

/-- The longer of two spans. -/
def max (a b : Span) : Span := ⟨Nat.max a.nanos b.nanos⟩

/-- A multiple of a span, at most the greatest span. -/
def times (s : Span) (n : Nat) : Span := ⟨Nat.min (s.nanos * n) greatest.nanos⟩

/-- The whole seconds of a span. -/
def wholeSeconds (s : Span) : Nat := s.nanos / 1000000000

/-- The nanoseconds of a span beyond its whole seconds. -/
def fraction (s : Span) : Nat := s.nanos % 1000000000

/-- A decimal with as many places as the fraction needs. -/
def decimalText (whole fraction places : Nat) : String :=
  let ds := digits fraction
  let padded := List.replicate (places - ds.length) '0' ++ ds
  let kept := (padded.reverse.dropWhile (· == '0')).reverse
  if kept.isEmpty then natText whole else natText whole ++ "." ++ String.ofList kept

/-- The text of a span in the greatest unit that it fills. -/
def text (s : Span) : String :=
  if 1000000000 ≤ s.nanos then decimalText s.wholeSeconds s.fraction 9 ++ "s"
  else if 1000000 ≤ s.nanos then decimalText (s.nanos / 1000000) (s.nanos % 1000000) 6 ++ "ms"
  else if 1000 ≤ s.nanos then decimalText (s.nanos / 1000) (s.nanos % 1000) 3 ++ "µs"
  else natText s.nanos ++ "ns"

end Span

/-- A length of time with a direction, in nanoseconds. -/
structure Shift where
  nanos : Int
deriving DecidableEq, Repr, Inhabited

namespace Shift

/-- A number of seconds. -/
def seconds (n : Int) : Shift := ⟨n * 1000000000⟩

/-- A number of milliseconds. -/
def millis (n : Int) : Shift := ⟨n * 1000000⟩

/-- The whole seconds, a started one not counted in either direction. -/
def wholeSeconds (s : Shift) : Int := s.nanos.tdiv 1000000000

/-- The whole milliseconds, a started one not counted in either direction. -/
def wholeMillis (s : Shift) : Int := s.nanos.tdiv 1000000

/-- The nanoseconds beyond the whole seconds, with the same direction. -/
def fraction (s : Shift) : Int := s.nanos.tmod 1000000000

/-- The length without its direction. -/
def span (s : Shift) : Span := ⟨s.nanos.natAbs⟩

end Shift

end TokenSteward.Time
