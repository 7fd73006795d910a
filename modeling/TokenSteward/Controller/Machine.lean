import TokenSteward.Controller.Basic

/-! # The machine of the controllers

The controllers' work is done by tasks that take turns: followers of stores (`watch_loop`), listings from
time to time (`resync_loop`), workers (`worker_loop`), and keys that are added later (`add_after`). A
task runs in small steps, each of which makes at most one request, until it has to wait: for a key, a
change, a time, or the end. What a step wakes goes to the end of the line of those that are ready. Which
ready task runs next, and when time passes, is not decided here.
-/

namespace TokenSteward.Controller

open TokenSteward.Cluster TokenSteward.Resource TokenSteward.Queue TokenSteward.Time

/-- What a worker is at: looking for a key, or in the midst of a pass that was started at an instant
and may be resting until another. -/
inductive Work where
  | idle
  | busy (key : Key) (pass : Pass Action) (since : Nat) (resting : Option Nat)

/-- A task: it starts the controllers with some numbers, closes their queues in the end, follows a
store, lists a store from time to time, works, adds a key later, or waits for one key for someone
outside. -/
inductive Task where
  | launch (controllers : List Nat)
  | supervise (controllers : List Nat)
  | watch (controller : Nat) (w : Watch) (seen : Nat) (doing : Option (Pass (List Key)))
  | resync (controller : Nat) (due : Nat) (doing : Option (Pass (List Key)))
  | worker (controller : Nat) (work : Work)
  | later (queue : Nat) (key : Key) (delay : Span) (due : Option Nat)
  | getter (queue : Nat)
  | got (handout : Handout)
  | finished

/-- How far a pass has come: it is started, goes on after a rest, or ends. -/
inductive Progress where
  | started
  | resumed
  | ended
deriving DecidableEq, Repr

/-- What is noted of the work: how far a controller's pass over a key has come. -/
structure Note where
  controller : Nat
  key : Key
  progress : Progress
deriving DecidableEq, Repr

/-- An instant at which a task wants to be woken, in milliseconds. -/
structure Alarm where
  due : Nat
  task : Nat
deriving DecidableEq, Repr

/-- How much longer a delay is made, as a share of it: a tenth of it at most (`MAX_JITTER`). -/
structure Jitter where
  part : Nat
  whole : Nat
  part_le : 10 * part ≤ whole

/-- The delay made longer by a share of it, so that tries do not come all at once. -/
def Jitter.spread (j : Jitter) (delay : Span) : Span :=
  ⟨delay.nanos + delay.nanos * j.part / j.whole⟩

/-- A twentieth. -/
def Jitter.middle : Jitter := ⟨1, 20, by decide⟩

/-- The controllers with all they work on. Time is counted in milliseconds. The latest note is the
first of the notes; alarms stand in the order in which they were set. The jitter of a delay is drawn
by the number of notes taken before. -/
structure Machine where
  cluster : Cluster
  now : Nat
  queues : List (Dispenser Nat)
  controllers : List Controller
  tasks : Array Task
  ready : List Nat
  listening : List (Source × Nat)
  alarms : List Alarm
  stopping : Bool
  notes : List Note
  jitter : Nat → Jitter

namespace Machine

/-- The machine of a cluster and one queue. -/
def start (cluster : Cluster) : Machine :=
  ⟨cluster, 0, [Dispenser.empty], [], #[], [], [], [], false, [], fun _ => .middle⟩

/-- A span in milliseconds, rounded up. -/
def millisUp (s : Span) : Nat := (s.nanos + 999999) / 1000000

/-- The first whole millisecond at or after the end of a span from now on. -/
def dueAfter (m : Machine) (s : Span) : Nat := m.now + millisUp s

/-- A line with a task at its end that does not stand in it yet. -/
def joinLine (line : List Nat) (id : Nat) : List Nat :=
  if line.contains id then line else line ++ [id]

/-- Puts tasks at the end of the line that do not stand in it yet. -/
def wake (m : Machine) (tasks : List Nat) : Machine :=
  { m with ready := tasks.foldl joinLine m.ready }

/-- Changes a task. -/
def setTask (m : Machine) (id : Nat) (t : Task) : Machine :=
  { m with tasks := m.tasks.setIfInBounds id t }

/-- Adds a ready task. -/
def spawn (m : Machine) (t : Task) : Machine :=
  { m with tasks := m.tasks.push t, ready := m.ready ++ [m.tasks.size] }

/-- Adds ready tasks. -/
def spawnAll (m : Machine) (all : List Task) : Machine := all.foldl spawn m

/-- Sets an alarm for an instant that is still to come. -/
def setAlarm (m : Machine) (due task : Nat) : Machine :=
  if due ≤ m.now then m else { m with alarms := m.alarms ++ [⟨due, task⟩] }

/-- Drops the alarms of a task. -/
def dropAlarms (m : Machine) (task : Nat) : Machine :=
  { m with alarms := m.alarms.filter (·.task != task) }

/-- The queue with a number. -/
def queue (m : Machine) (q : Nat) : Dispenser Nat := m.queues.getD q Dispenser.empty

/-- Changes a queue, and wakes whom the change wakes. -/
def setQueue (m : Machine) (q : Nat) (change : Dispenser Nat × List Nat) : Machine :=
  { m with queues := m.queues.set q change.1 }.wake change.2

/-- Adds a key to a queue. -/
def enqueue (m : Machine) (q : Nat) (k : Key) : Machine := m.setQueue q ((m.queue q).add k)

/-- Adds keys to a queue. -/
def enqueueAll (m : Machine) (q : Nat) (keys : List Key) : Machine :=
  keys.foldl (fun m k => m.enqueue q k) m

/-- Adds a key to a queue after a delay; at once if there is none. -/
def enqueueAfter (m : Machine) (q : Nat) (k : Key) (delay : Span) : Machine :=
  if delay.isZero then m.enqueue q k else m.spawn (.later q k delay none)

/-- Gives a key back to a queue. -/
def giveBack (m : Machine) (q : Nat) (k : Key) : Machine := m.setQueue q ((m.queue q).done k)

/-- Changes a controller. -/
def setController (m : Machine) (i : Nat) (c : Controller) : Machine :=
  { m with controllers := m.controllers.set i c }

/-- Notes something. -/
def note (m : Machine) (n : Note) : Machine := { m with notes := n :: m.notes }

/-- The machine over a changed cluster. Who listens to a store with new changes is woken. -/
def withCluster (m : Machine) (c : Cluster) : Machine :=
  let isNews (s : Source) : Bool := s.published m.cluster != s.published c
  let (woken, rest) := m.listening.partition fun l => isNews l.1
  { m with cluster := c, listening := rest }.wake (woken.map Prod.snd)

/-- Ends a pass of a worker: what follows for its key, and on to the next key. -/
def endPass (m : Machine) (id i : Nat) (c : Controller) (k : Key) (follow : Machine → Machine) :
    Machine :=
  let m := (follow ((m.note ⟨i, k, .ended⟩).dropAlarms id)).giveBack c.queue k
  m.setTask id (.worker i .idle)

/-- Ends a pass that succeeded. -/
def succeedPass (m : Machine) (id i : Nat) (c : Controller) (k : Key) (a : Action) : Machine :=
  m.endPass id i c k fun m =>
    let m := m.setController i { c with backoff := c.backoff.reset k }
    match a with
    | .await => m
    | .requeue delay => m.enqueueAfter c.queue k delay

/-- Ends a pass that failed. Only a failure of the infrastructure is worth another try, and a pass
that was cancelled leaves no trace. -/
def failPass (m : Machine) (id i : Nat) (c : Controller) (k : Key) (f : Failure) : Machine :=
  m.endPass id i c k fun m =>
    match f with
    | .cancelled _ => m
    | _ =>
      if f.isRetryable then
        let (delay, backoff) := c.backoff.fail k
        (m.setController i { c with backoff := backoff }).enqueueAfter c.queue k
          ((m.jitter m.notes.length).spread delay)
      else m.setController i { c with backoff := c.backoff.reset k }

/-- What a step of a task comes to: it can go on, has to wait, or asks for something and goes on
with the answer. -/
inductive Step where
  | goesOn (m : Machine)
  | waits (m : Machine)
  | asks (r : Request) (next : r.Answer → Machine → Machine)

/-- The tasks of a controller: one for each store that it follows, one that lists everything, and
its workers. -/
def partsOf (m : Machine) (i : Nat) (c : Controller) : List Task :=
  let follower (w : Watch) : Task := .watch i w (w.source.published m.cluster) none
  (c.watches ++ [Watch.mk c.source .own]).map follower
    ++ .resync i m.now none :: List.replicate c.workers (.worker i .idle)

/-- Starts controllers one after the other. -/
def launchAll (m : Machine) (controllers : List Nat) : Machine :=
  controllers.foldl (fun m i =>
    match m.controllers[i]? with
    | none => m
    | some c => m.spawnAll (m.partsOf i c)) m

/-- Closes the queues of controllers. -/
def closeAll (m : Machine) (controllers : List Nat) : Machine :=
  controllers.foldl (fun m i =>
    match m.controllers[i]? with
    | none => m
    | some c => m.setQueue c.queue (m.queue c.queue).close) m

/-- The step of a task that collects keys for a controller's queue by a pass. -/
def collect (m : Machine) (id i : Nat) (p : Pass (List Key))
    (again : Option (Pass (List Key)) → Task) : Step :=
  match p with
  | .done keys =>
    let m := m.setTask id (again none)
    match m.controllers[i]? with
    | none => .goesOn m
    | some c => .goesOn (m.enqueueAll c.queue keys)
  | .fail _ => .goesOn (m.setTask id (again none))
  | .ask r next => .asks r fun answer m => m.setTask id (again (some (next answer)))

/-- The step of a worker whose pass rests until an instant. The pass has failed if its deadline
comes first. -/
def restOn (m : Machine) (id i : Nat) (c : Controller) (k : Key) (next : Pass Action)
    (since due : Nat) : Step :=
  if due ≤ m.now then
    .goesOn ((m.note ⟨i, k, .resumed⟩).setTask id (.worker i (.busy k next since none)))
  else if since + millisUp c.tuning.deadline ≤ m.now then
    .goesOn (m.failPass id i c k (.deadline k.text))
  else .waits m

/-- The step of a worker in the midst of a pass. -/
def workOn (m : Machine) (id i : Nat) (c : Controller) (k : Key) (p : Pass Action) (since : Nat)
    (resting : Option Nat) : Step :=
  if m.stopping then .goesOn (m.failPass id i c k (.cancelled k.text))
  else match p, resting with
    | .done a, _ => .goesOn (m.succeedPass id i c k a)
    | .fail f, _ => .goesOn (m.failPass id i c k f)
    | .ask (.pause _) next, some due => m.restOn id i c k (next ()) since due
    | .ask (.pause span) _, none =>
      let due := m.dueAfter span
      let m := m.setTask id (.worker i (.busy k p since (some due)))
      .goesOn ((m.setAlarm due id).setAlarm (since + millisUp c.tuning.deadline) id)
    | .ask (.enqueue q other) next, _ =>
      .goesOn ((m.enqueue q other).setTask id (.worker i (.busy k (next ()) since none)))
    | .ask r next, _ => .asks r fun answer m =>
      m.setTask id (.worker i (.busy k (next answer) since none))

/-- One step of a task. -/
def step (m : Machine) (id : Nat) : Step :=
  match m.tasks.getD id .finished with
  | .finished | .got _ => .waits m
  | .launch controllers =>
    let m := (m.launchAll controllers).setTask id (.supervise controllers)
    if m.stopping then .goesOn m else .waits m
  | .supervise controllers =>
    if m.stopping then .goesOn ((m.closeAll controllers).setTask id .finished) else .waits m
  | .watch i w seen (some p) => m.collect id i p (.watch i w seen)
  | .watch i w seen none =>
    if m.stopping then .goesOn (m.setTask id .finished)
    else match w.source.follow m.cluster seen with
      | (.change c, seen) => .goesOn (m.setTask id (.watch i w seen (some (w.mapper.keys c))))
      | (.missed, seen) => .goesOn (m.setTask id (.watch i w seen (some w.relist)))
      | (.nothing, _) => .waits { m with listening := m.listening ++ [(w.source, id)] }
  | .resync i due (some p) => m.collect id i p (.resync i due)
  | .resync i due none =>
    match m.controllers[i]? with
    | none => .goesOn (m.setTask id .finished)
    | some c =>
      if m.stopping then .goesOn ((m.dropAlarms id).setTask id .finished)
      else if due ≤ m.now then
        let period := Nat.max (millisUp c.tuning.resyncPeriod) 1
        .goesOn (m.setTask id (.resync i (due + period) (some c.source.allKeys)))
      else .waits (m.setAlarm due id)
  | .worker i .idle =>
    match m.controllers[i]? with
    | none => .goesOn (m.setTask id .finished)
    | some c =>
      match (m.queue c.queue).take id with
      | (.key k, d) =>
        let m := m.setQueue c.queue (d, [])
        let count := c.startedOf k
        let m := m.setController i { c with started := c.started.insert k (count + 1) }
        if m.stopping then .goesOn (m.giveBack c.queue k)
        else .goesOn ((m.note ⟨i, k, .started⟩).setTask id
          (.worker i (.busy k (c.reconcile k count) m.now none)))
      | (.nothing, d) => .waits (m.setQueue c.queue (d, []))
      | (.closed, d) => .goesOn ((m.setQueue c.queue (d, [])).setTask id .finished)
  | .worker i (.busy k p since resting) =>
    match m.controllers[i]? with
    | none => .goesOn (m.setTask id .finished)
    | some c => m.workOn id i c k p since resting
  | .later q k delay none =>
    let due := m.dueAfter delay
    .waits ((m.setTask id (.later q k delay (some due))).setAlarm due id)
  | .later q k delay (some due) =>
    if due ≤ m.now then .waits ((m.enqueue q k).setTask id .finished)
    else .waits (m.setTask id (.later q k delay (some due)))
  | .getter q =>
    match (m.queue q).take id with
    | (.nothing, d) => .waits (m.setQueue q (d, []))
    | (handout, d) => .waits ((m.setQueue q (d, [])).setTask id (.got handout))

/-- The deadline (`reconcile_timeout`) of the pass that a worker is in the midst of comes before the
worker has heard how the pass ends. A step takes no time here, so at a step a deadline can only have come
while the pass rests; where answers are waited for, it may come at any of them, whether or not the last
request was carried out. -/
def late (m : Machine) (id : Nat) : Machine :=
  match m.tasks.getD id .finished with
  | .worker i (.busy k _ _ _) =>
    match m.controllers[i]? with
    | some c => m.failPass id i c k (.deadline k.text)
    | none => m
  | _ => m

/-- Lets time pass up to an instant, and wakes the tasks whose alarms are due, the earliest first
and of equal ones the one that was set first. -/
def pass (m : Machine) (now : Nat) : Machine :=
  let (due, rest) := m.alarms.partition (·.due ≤ now)
  let inOrder := due.mergeSort fun a b => decide (a.due ≤ b.due)
  { m with now := now, alarms := rest }.wake (inOrder.map Alarm.task)

/-- Whether a task looks up when the controllers are asked to stop. Who waits for a key is woken by
the end of the queue. -/
def heedsStop : Task → Bool
  | .supervise _ | .watch _ _ _ _ | .resync _ _ _ | .worker _ (.busy _ _ _ _) => true
  | _ => false

/-- Asks all controllers to stop. -/
def stop (m : Machine) : Machine :=
  { m with stopping := true, listening := [] }.wake ((List.range m.tasks.size).filter fun id =>
    heedsStop (m.tasks.getD id .finished))

end Machine

end TokenSteward.Controller
