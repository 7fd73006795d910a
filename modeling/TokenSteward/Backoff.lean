import TokenSteward.Resource.Key
import TokenSteward.Time.Span

/-! # Delays after failures

Each failure of a key in a row doubles the delay before the next try, up to a bound. A success
starts over.
-/

namespace TokenSteward

open TokenSteward.Resource TokenSteward.Time

/-- The bounds of the delays, and the failures in a row of each key. -/
structure Backoff where
  base : Span
  max : Span
  failures : Table Key UInt32

namespace Backoff

/-- No failures yet. The greatest delay is at least the first. -/
def start (base max : Span) : Backoff := ⟨base, max.max base, Table.empty⟩

/-- The factor of the delay after a number of failures, bounded by thirty-two bits. -/
def factor (attempt : UInt32) : Nat :=
  if attempt.toNat < 32 then Nat.pow 2 attempt.toNat else UInt32.size - 1

/-- The delay after a number of failures. -/
def delayFor (b : Backoff) (attempt : UInt32) : Span := (b.base.times (factor attempt)).min b.max

/-- The failures in a row of a key. -/
def failuresOf (b : Backoff) (key : Key) : UInt32 := (b.failures.get? key).getD 0

/-- One failure more. The greatest number stays as it is. -/
def succ (n : UInt32) : UInt32 := if n.toNat + 1 < UInt32.size then n + 1 else n

/-- Counts a failure of a key, and tells the delay before the next try (`next_delay`, but for the
jitter). -/
def fail (b : Backoff) (key : Key) : Span × Backoff :=
  let attempt := b.failuresOf key
  (b.delayFor attempt, { b with failures := b.failures.insert key (succ attempt) })

/-- Forgets the failures of a key. -/
def reset (b : Backoff) (key : Key) : Backoff := { b with failures := b.failures.erase key }

end Backoff

end TokenSteward
