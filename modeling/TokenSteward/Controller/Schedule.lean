import TokenSteward.Controller.Machine

/-! # Taking turns

One way to run the machine: ready tasks take turns in the order of the line, and each runs until it
has to wait. A follower that sees change after change steps back after a while. Time passes only
when nobody is ready, and then up to the next alarm. Someone outside, who sleeps until an instant,
goes on first at that instant.
-/

namespace TokenSteward.Controller

open TokenSteward.Cluster

/-- Those who answer requests, with a memory of their own. -/
structure Partners (ε : Type) where
  answer : (r : Request) → Cluster → ε → r.Answer × Cluster × ε

/-- A running machine, the memory of those who answer, and the tasks that have stepped back. -/
structure Run (ε : Type) where
  machine : Machine
  memory : ε
  deferred : List Nat

namespace Run

variable {ε : Type}

/-- How many changes a follower sees before it steps back. -/
def sightings : Nat := 128

/-- How many turns are taken before those who have stepped back come up again. -/
def turnsInRow : Nat := 61

/-- How many steps, or rows of turns, are taken at most. -/
def patience : Nat := 10000000

/-- Whether a task is about to look for a change. -/
def isLooking (m : Machine) (id : Nat) : Bool :=
  match m.tasks.getD id .finished with
  | .watch _ _ _ none => true
  | _ => false

/-- Lets a task run until it has to wait. -/
def runTask (p : Partners ε) (id : Nat) : Nat → Nat → Run ε → Run ε
  | 0, _, r => r
  | steps + 1, sights, r =>
    let looking := isLooking r.machine id
    if looking && sights == 0 then { r with deferred := r.deferred ++ [id] }
    else
      let sights := if looking then sights - 1 else sights
      match r.machine.step id with
      | .waits m => { r with machine := m }
      | .goesOn m => runTask p id steps sights { r with machine := m }
      | .asks request next =>
        let (answer, cluster, memory) := p.answer request r.machine.cluster r.memory
        runTask p id steps sights
          { r with machine := next answer (r.machine.withCluster cluster), memory := memory }

/-- Lets ready tasks take turns, a number of turns at most. -/
def takeTurns (p : Partners ε) : Nat → Run ε → Run ε
  | 0, r => r
  | turns + 1, r =>
    match r.machine.ready with
    | [] => r
    | id :: rest =>
      takeTurns p turns
        (runTask p id patience sightings { r with machine := { r.machine with ready := rest } })

/-- Puts those who have stepped back into the line again. -/
def rejoin (r : Run ε) : Run ε :=
  { r with machine := r.machine.wake r.deferred, deferred := [] }

/-- Whether nobody is ready. -/
def isQuiet (r : Run ε) : Bool := r.machine.ready.isEmpty && r.deferred.isEmpty

/-- The next instant at which someone wants to be woken, at most a given one. -/
def nextAlarm (r : Run ε) (bound : Nat) : Nat :=
  r.machine.alarms.foldl (fun least a => Nat.min least a.due) bound

/-- Runs the machine until an instant. -/
def sleepUntil (p : Partners ε) (instant : Nat) : Nat → Run ε → Run ε
  | 0, r => r
  | rows + 1, r =>
    let r := takeTurns p turnsInRow r
    if r.isQuiet then
      let next := r.nextAlarm instant
      let r := { r with machine := r.machine.pass next }
      if instant ≤ next then r else sleepUntil p instant rows r
    else sleepUntil p instant rows r.rejoin

/-- Runs the machine for a number of milliseconds. -/
def sleep (p : Partners ε) (millis : Nat) (r : Run ε) : Run ε :=
  if millis = 0 then r else sleepUntil p (r.machine.now + millis) patience r

/-- Runs the machine until nobody is ready, without time passing. -/
def settle (p : Partners ε) : Nat → Run ε → Run ε
  | 0, r => r
  | rows + 1, r =>
    let r := takeTurns p turnsInRow r
    if r.isQuiet then r else settle p rows r.rejoin

/-- Asks all controllers to stop, and waits for their end. -/
def stop (p : Partners ε) (r : Run ε) : Run ε :=
  let r := settle p patience { r with machine := r.machine.stop }
  { r with machine := { r.machine with stopping := false } }

end Run

end TokenSteward.Controller
