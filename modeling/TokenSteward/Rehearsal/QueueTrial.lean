import TokenSteward.Rehearsal.Stage

/-! # Trying a queue

One queue under a clock of its own, with those who wait for its keys in the background.
-/

namespace TokenSteward.Rehearsal

open TokenSteward.Cluster TokenSteward.Resource TokenSteward.Queue TokenSteward.Controller
open TokenSteward.Time

/-- The number of the queue of a trial. -/
def trialQueue : Nat := 0

/-- A queue and those who wait for its keys, each the getter with a number. -/
structure QueueTrial where
  run : Run Stage
  waiters : List (String × Nat)

namespace QueueTrial

/-- A trial of an empty queue. -/
def start : QueueTrial := ⟨⟨Machine.start (Cluster.empty (.serial 0)), .bare, []⟩, []⟩

/-- The queue as it is. -/
def queue (t : QueueTrial) : Queue := (t.run.machine.queue trialQueue).queue

/-- Changes the machine. -/
def change (t : QueueTrial) (f : Machine → Machine) : QueueTrial :=
  { t with run := { t.run with machine := f t.run.machine } }

/-- Adds a key. -/
def add (t : QueueTrial) (k : Key) : QueueTrial := t.change fun m => m.enqueue trialQueue k

/-- Adds a key after a delay. -/
def addAfter (t : QueueTrial) (k : Key) (delay : Span) : QueueTrial :=
  t.change fun m => m.enqueueAfter trialQueue k delay

/-- Tries to get a key without waiting. -/
def get (t : QueueTrial) : Handout × QueueTrial :=
  let (handout, d) := (t.run.machine.queue trialQueue).tryTake
  (handout, t.change fun m => m.setQueue trialQueue (d, []))

/-- Gives a key back. -/
def done (t : QueueTrial) (k : Key) : QueueTrial := t.change fun m => m.giveBack trialQueue k

/-- Closes the queue. -/
def close (t : QueueTrial) : QueueTrial :=
  t.change fun m => m.setQueue trialQueue (m.queue trialQueue).close

/-- Lets time pass. -/
def sleep (t : QueueTrial) (millis : Nat) : QueueTrial :=
  { t with run := t.run.sleep Stage.partners millis }

/-- Someone begins to wait for a key. -/
def wait (t : QueueTrial) (name : String) : QueueTrial :=
  let getter := t.run.machine.tasks.size
  let t := t.change fun m => m.spawn (.getter trialQueue)
  { t with waiters := (name, getter) :: t.waiters }.sleep 1

/-- What someone who waits has got so far. -/
def poll (t : QueueTrial) (name : String) : Handout × QueueTrial :=
  let t := t.sleep 1
  match t.waiters.find? (·.1 == name) with
  | none => (.nothing, t)
  | some (_, getter) =>
    match t.run.machine.tasks.getD getter .finished with
    | .got handout => (handout, t)
    | _ => (.nothing, t)

end QueueTrial

end TokenSteward.Rehearsal
