import TokenSteward.Proofs.Workers.Books
import TokenSteward.Proofs.Works.Reached

/-! # The workers of a machine

A machine moves in any order: any task may be at turn, keys are added to any queue at once or later by
someone outside, time passes, the cluster changes behind the back of the controllers, the deadline of a
pass comes while an answer is awaited, and at some time all are asked to stop. Who is in the midst of a
pass then may still bring it to its end. Whatever the order, each move is an entry in the books of the
workers of a controller that shares its queue with no other.
-/

namespace TokenSteward.Controller

open TokenSteward.Cluster TokenSteward.Resource TokenSteward.Time

/-! ## Moves -/

/-- What can happen to a machine: the first task in the line is at turn, or any other. A worker that is
at turn may not have heard yet of the call to stop. -/
inductive Move where
  | next (x : Chance)
  | turn (id : Nat) (x : Chance)
  | heedless (id : Nat) (x : Chance)
  | late (id : Nat)
  | adds (q : Nat) (k : Key)
  | delays (q : Nat) (k : Key) (delay : Span)
  | passes (millis : Nat)
  | shifts (c : Cluster)
  | stops

/-- Whether a task is that of a worker. -/
def Task.isWorker : Task → Bool
  | .worker _ _ => true
  | _ => false

/-- The key that a worker of a controller is in the midst of a pass over. -/
def Task.held? (i : Nat) : Task → Option Key
  | .worker j (.busy k _ _ _) => if j = i then some k else none
  | _ => none

/-- The key that is to be added to a queue later. -/
def Task.deferral? (q : Nat) : Task → Option Deferral
  | .later p k delay due => if p = q then some ⟨k, delay, due⟩ else none
  | _ => none

namespace Machine

/-- The machine after a turn of a task that has not heard of the call to stop. -/
def heedless (m : Machine) (id : Nat) (x : Chance) : Machine :=
  { ({ m with stopping := false } : Machine).turn id x with stopping := m.stopping }

/-- The machine after the turn of the first task in the line. -/
def next (m : Machine) (x : Chance) : Machine :=
  match m.ready with
  | [] => m
  | id :: rest => ({ m with ready := rest } : Machine).turn id x

/-- What a move makes of a machine. -/
def moved (m : Machine) : Move → Machine
  | .next x => m.next x
  | .turn id x => m.turn id x
  | .heedless id x => if (m.core.task id).isWorker then m.heedless id x else m
  | .late id => m.late id
  | .adds q k => m.enqueue q k
  | .delays q k delay => m.enqueueAfter q k delay
  | .passes millis => m.pass (m.now + millis)
  | .shifts c => m.withCluster c
  | .stops => m.stop

/-- The machine after some moves. -/
def played (m : Machine) (moves : List Move) : Machine := moves.foldl moved m

/-- What a controller remembers of the failures. -/
def backoffOf (m : Machine) (i : Nat) : Backoff :=
  (m.controllers[i]?.map Controller.backoff).getD (.start .zero .zero)

/-- The books of the workers of a controller with a queue. -/
def books (m : Machine) (i q : Nat) : Books :=
  ⟨m.now, m.core.queue q, m.backoffOf i, fun id => (m.core.task id).held? i,
    fun id => (m.core.task id).deferral? q⟩

/-- The result of a pass over a key that its worker is in the midst of, if it ends at the next turn. -/
def endOf (m : Machine) (c : Controller) (k : Key) (p : Pass Action) (since : Nat)
    (resting : Option Nat) : Option (Except Failure Action) :=
  if m.stopping then some (.error (.cancelled k.text))
  else match p, resting with
    | .done a, _ => some (.ok a)
    | .fail f, _ => some (.error f)
    | .ask (.pause _) _, some due =>
      if m.now < due ∧ since + millisUp c.tuning.deadline ≤ m.now then
        some (.error (.deadline k.text))
      else none
    | _, _ => none

/-- What a turn of a task means for the workers of a controller. -/
def markOfTurn (m : Machine) (i id : Nat) : Mark :=
  match m.core.task id, m.controllers[i]? with
  | .worker j work, some c =>
    if j = i then
      match work with
      | .idle =>
        match (m.core.queue c.queue).waiting with
        | [] => .quiet
        | k :: _ => if m.stopping then .declined k else .began k
      | .busy k p since resting =>
        match m.endOf c k p since resting with
        | some r => .ended k r
        | none => .quiet
    else .quiet
  | _, _ => .quiet

/-- What a move means for the workers of a controller with a queue. -/
def mark (m : Machine) (i q : Nat) : Move → Mark
  | .next _ =>
    match m.ready with
    | [] => .quiet
    | id :: _ => m.markOfTurn i id
  | .turn id _ => m.markOfTurn i id
  | .heedless id _ => ({ m with stopping := false } : Machine).markOfTurn i id
  | .late id =>
    match m.core.task id with
    | .worker j (.busy k _ _ _) =>
      if j = i then .ended k (.error (.deadline k.text)) else .quiet
    | _ => .quiet
  | .delays p k delay => if p = q then .delayed k delay else .quiet
  | _ => .quiet

/-- What some moves mean for the workers of a controller with a queue. -/
def log (m : Machine) (i q : Nat) : List Move → List Mark
  | [] => []
  | move :: rest => m.mark i q move :: (m.moved move).log i q rest

/-! ## What changes of a machine do to the books -/

variable (m : Machine) (i q : Nat)

@[simp] theorem books_note (n : Note) : (m.note n).books i q = m.books i q := rfl

@[simp] theorem books_setAlarm (due task : Nat) :
    (m.setAlarm due task).books i q = m.books i q := by
  unfold setAlarm
  split <;> rfl

theorem books_setTask {id : Nat} (inside : id < m.core.size) (t : Task) :
    (m.setTask id t).books i q =
      { m.books i q with
        holding := Function.update (m.books i q).holding id (t.held? i)
        deferred := Function.update (m.books i q).deferred id (t.deferral? q) } := by
  simp only [books, core_setTask m inside]
  congr 1
  · funext j
    by_cases here : j = id
    · simp [here]
    · simp [Core.set_task_of_ne _ _ here, Function.update_of_ne here]
  · funext j
    by_cases here : j = id
    · simp [here]
    · simp [Core.set_task_of_ne _ _ here, Function.update_of_ne here]

/-- A task may change as long as it holds and adds later what it did before. -/
theorem books_setTask_of_alike {id : Nat} (inside : id < m.core.size) {t : Task}
    (held : t.held? i = (m.core.task id).held? i)
    (deferral : t.deferral? q = (m.core.task id).deferral? q) :
    (m.setTask id t).books i q = m.books i q := by
  have holding : (m.books i q).holding id = t.held? i := held.symm
  have deferred : (m.books i q).deferred id = t.deferral? q := deferral.symm
  rw [books_setTask m i q inside, ← holding, ← deferred, Function.update_eq_self,
    Function.update_eq_self]

/-- So it may in a machine with the same tasks and the same books. -/
theorem books_setTask_of_same {n : Machine} {id : Nat} (inside : id < m.core.size)
    (tasks : n.core.task = m.core.task ∧ n.core.size = m.core.size) (same : n.books i q = m.books i q)
    {t : Task} (held : t.held? i = (m.core.task id).held? i)
    (deferral : t.deferral? q = (m.core.task id).deferral? q) :
    (n.setTask id t).books i q = m.books i q := by
  rw [← tasks.1] at held deferral
  exact (n.books_setTask_of_alike i q (tasks.2 ▸ inside) held deferral).trans same

theorem books_spawn (t : Task) :
    (m.spawn t).books i q =
      { m.books i q with
        holding := Function.update (m.books i q).holding m.core.size (t.held? i)
        deferred := Function.update (m.books i q).deferred m.core.size (t.deferral? q) } := by
  simp only [books, core_spawn]
  congr 1
  · funext j
    by_cases here : j = m.core.size
    · subst here
      simp
    · simp [Core.push_task_of_ne _ _ here, Function.update_of_ne here]
  · funext j
    by_cases here : j = m.core.size
    · subst here
      simp
    · simp [Core.push_task_of_ne _ _ here, Function.update_of_ne here]

theorem holding_size : (m.books i q).holding m.core.size = none := by
  simp only [books, m.fits_core _ (Nat.le_refl _)]
  rfl

theorem deferred_size : (m.books i q).deferred m.core.size = none := by
  simp only [books, m.fits_core _ (Nat.le_refl _)]
  rfl

/-- A new task that holds no key and adds none later is not in the books. -/
theorem books_spawn_of_plain {t : Task} (held : t.held? i = none) (deferral : t.deferral? q = none) :
    (m.spawn t).books i q = m.books i q := by
  have holding := m.holding_size i q
  have deferred := m.deferred_size i q
  rw [books_spawn, held, deferral]
  nth_rewrite 1 [← holding]
  rw [← deferred, Function.update_eq_self, Function.update_eq_self]

theorem books_setQueue {i q : Nat} (there : q < m.core.width) (change : Queue.Dispenser Nat × List Nat) :
    (m.setQueue q change).books i q = { m.books i q with queue := change.1.queue } := by
  simp only [books, core_setQueue, Core.file_queue_self _ _ there]
  rfl

theorem books_setQueue_of_ne {p : Nat} (other : p ≠ q) (change : Queue.Dispenser Nat × List Nat) :
    (m.setQueue p change).books i q = m.books i q := by
  simp only [books, core_setQueue, Core.file_queue_of_ne _ _ other.symm]
  rfl

theorem books_setController (c : Controller) {j : Nat} (there : j < m.controllers.length) :
    (m.setController j c).books i q =
      if j = i then { m.books i q with backoff := c.backoff } else m.books i q := by
  have backoff : (m.setController j c).backoffOf i = if j = i then c.backoff else m.backoffOf i := by
    unfold backoffOf setController
    split
    · next here =>
      subst here
      simp [there]
    · next other => simp [List.getElem?_set_ne other]
  unfold books
  rw [backoff]
  split <;> rfl

variable {m} {i q}

theorem books_enqueue (there : q < m.core.width) (p : Nat) (k : Key) :
    (m.enqueue p k).books i q =
      if p = q then { m.books i q with queue := ((m.books i q).queue.add k).1 } else m.books i q := by
  split
  · next here =>
    subst here
    rw [enqueue, books_setQueue m there, Queue.Dispenser.add, queue_changed]
    rfl
  · next other => exact books_setQueue_of_ne m i q other _

theorem books_giveBack (there : q < m.core.width) (p : Nat) (k : Key) :
    (m.giveBack p k).books i q =
      if p = q then { m.books i q with queue := ((m.books i q).queue.done k).1 } else m.books i q := by
  split
  · next here =>
    subst here
    rw [giveBack, books_setQueue m there, Queue.Dispenser.done, queue_changed]
    rfl
  · next other => exact books_setQueue_of_ne m i q other _

theorem width_enqueue (p : Nat) (k : Key) : (m.enqueue p k).core.width = m.core.width := by
  rw [core_enqueue, Core.file_width]

theorem books_enqueueAll (there : q < m.core.width) (p : Nat) (keys : List Key) :
    (m.enqueueAll p keys).books i q =
      if p = q then { m.books i q with queue := (m.books i q).queue.addAll keys }
      else m.books i q := by
  induction keys generalizing m with
  | nil => split <;> rfl
  | cons k keys ih =>
    have rest := ih (m := m.enqueue p k) (by rwa [width_enqueue])
    rw [books_enqueue there] at rest
    refine rest.trans ?_
    split
    · rw [Queue.addAll_cons]
    · rfl

end Machine

end TokenSteward.Controller
