import TokenSteward.Queue.Basic

/-! # Waiting for a key

Who finds a queue empty waits (`notified`), and the one who has waited longest is woken when a key comes. If
nobody waits, one permit is kept for the next who would. A woken one tries again: the key may be
gone by then.
-/

namespace TokenSteward.Queue

open TokenSteward.Resource

/-- A queue and those who wait for its keys, the longest first. -/
structure Dispenser (ι : Type) where
  queue : Queue
  permit : Bool
  parked : List ι

namespace Dispenser

variable {ι : Type}

/-- The dispenser of an empty queue. -/
def empty : Dispenser ι := ⟨Queue.empty, false, []⟩

instance : Inhabited (Dispenser ι) := ⟨empty⟩

/-- Wakes the one who has waited longest, or keeps a permit (`notify_one`). -/
def notify (d : Dispenser ι) : Dispenser ι × List ι :=
  match d.parked with
  | i :: rest => ({ d with parked := rest }, [i])
  | [] => ({ d with permit := true }, [])

/-- The dispenser of a changed queue; if a key came to wait, someone is woken. -/
def changed (d : Dispenser ι) (change : Queue × Bool) : Dispenser ι × List ι :=
  let d := { d with queue := change.1 }
  if change.2 then d.notify else (d, [])

/-- Adds a key, and tells who is woken. -/
def add (d : Dispenser ι) (k : Key) : Dispenser ι × List ι := d.changed (d.queue.add k)

/-- Gives a key back, and tells who is woken. -/
def done (d : Dispenser ι) (k : Key) : Dispenser ι × List ι := d.changed (d.queue.done k)

/-- Closes the queue and wakes all who wait. -/
def close (d : Dispenser ι) : Dispenser ι × List ι :=
  ({ d with queue := d.queue.close, parked := [] }, d.parked)

/-- Tries to get a key without waiting. A permit is used up by finding nothing. -/
def tryTake (d : Dispenser ι) : Handout × Dispenser ι :=
  match d.queue.take with
  | (.nothing, q) => (.nothing, { d with queue := q, permit := false })
  | (handout, q) => (handout, { d with queue := q })

/-- Tries to get a key for someone who waits if there is none. -/
def take (d : Dispenser ι) (i : ι) : Handout × Dispenser ι :=
  match d.tryTake with
  | (.nothing, d) => (.nothing, { d with parked := d.parked ++ [i] })
  | result => result

end Dispenser

end TokenSteward.Queue
