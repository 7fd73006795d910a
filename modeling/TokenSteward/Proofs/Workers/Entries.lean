import TokenSteward.Proofs.Workers.Moves

/-! # Every move is an entry in the books

The queue of a controller is touched by its own workers, by those who add keys, and by the end. So each
move of a machine is one entry in the books of the workers, the one that its mark names, and the delay
of another try is the one that the failures of the key call for.
-/

namespace TokenSteward.Controller

open TokenSteward.Cluster TokenSteward.Resource TokenSteward.Time

/-- The delay after the failures of a key that stand in the books, without anything added. -/
def Books.least (b : Books) (k : Key) : Span := b.backoff.delayFor (b.backoff.failuresOf k)

theorem Entry.same {least : Key → Span} (b : Books) : Entry least b .quiet b := .adds []

theorem Entry.of_eq {least : Key → Span} {b b' : Books} (same : b' = b) : Entry least b .quiet b' := by
  rw [same]
  exact .same _

theorem Jitter.stretches (j : Jitter) (delay : Span) : Stretches delay (j.spread delay) := by
  refine ⟨Nat.le_add_right _ _, ?_⟩
  have share : 10 * (delay.nanos * j.part / j.whole) ≤ delay.nanos := by
    refine (Nat.mul_div_le_mul_div_assoc 10 (delay.nanos * j.part) j.whole).trans ?_
    apply Nat.div_le_of_le_mul
    calc 10 * (delay.nanos * j.part) = delay.nanos * (10 * j.part) := by
          rw [Nat.mul_left_comm]
      _ ≤ delay.nanos * j.whole := Nat.mul_le_mul_left _ j.part_le
      _ = j.whole * delay.nanos := Nat.mul_comm _ _
  simp only [Jitter.spread]
  omega

namespace Machine

/-- A controller of a team works on in a machine, its queue is there and its own, and nobody else waits
for a key. -/
structure Tended (team : List Controller) (i : Nat) (c : Controller) (m : Machine) : Prop where
  bare : m.controllers.map Controller.bare = team.map Controller.bare
  member : team[i]? = some c
  alone : ∀ j k, team[j]? = some k → k.queue = c.queue → j = i
  there : c.queue < m.core.width
  ours : ∀ id q, m.core.task id ≠ .getter q

/-- What follows for a key from the result of a pass over it. -/
def settled (m : Machine) (i : Nat) (c : Controller) (k : Key) : Except Failure Action → Machine
  | .ok .await => m.setController i { c with backoff := c.backoff.reset k }
  | .ok (.requeue delay) =>
    (m.setController i { c with backoff := c.backoff.reset k }).enqueueAfter c.queue k delay
  | .error (.cancelled _) => m
  | .error f =>
    if f.isRetryable then
      (m.setController i { c with backoff := (c.backoff.fail k).2 }).enqueueAfter c.queue k
        ((m.jitter m.notes.length).spread (c.backoff.fail k).1)
    else m.setController i { c with backoff := c.backoff.reset k }

/-- The machine after a pass over a key has come to a result. -/
def finish (m : Machine) (id i : Nat) (c : Controller) (k : Key) (r : Except Failure Action) :
    Machine :=
  m.endPass id i c k fun m => m.settled i c k r

theorem succeedPass_eq (m : Machine) (id i : Nat) (c : Controller) (k : Key) (a : Action) :
    m.succeedPass id i c k a = m.finish id i c k (.ok a) := by
  cases a <;> rfl

theorem failPass_eq (m : Machine) (id i : Nat) (c : Controller) (k : Key) (f : Failure) :
    m.failPass id i c k f = m.finish id i c k (.error f) := by
  cases f <;> rfl

variable {team : List Controller} {i : Nat} {c d : Controller} {m : Machine}

theorem Tended.staffed (tended : m.Tended team i c) :
    ({ m with stopping := false } : Machine).Staffed team :=
  congrArg (Prod.mk false) tended.bare

/-- Another controller has another queue. -/
theorem Tended.apart (tended : m.Tended team i c) {j : Nat} (found : m.controllers[j]? = some d)
    (other : j ≠ i) : d.queue ≠ c.queue := by
  obtain ⟨k, member, alike⟩ := tended.staffed.member found
  intro same
  exact other (tended.alone j k member (alike.queue.symm.trans same))

/-- The controller is there, with the same queue. -/
theorem Tended.found (tended : m.Tended team i c) :
    ∃ d, m.controllers[i]? = some d ∧ d.queue = c.queue := by
  cases found : m.controllers[i]? with
  | none =>
    have nobody := tended.staffed.nobody found
    rw [tended.member] at nobody
    cases nobody
  | some d =>
    obtain ⟨k, member, alike⟩ := tended.staffed.member found
    rw [tended.member] at member
    exact ⟨d, rfl, alike.queue.trans (congrArg Controller.queue (Option.some.inj member)).symm⟩

theorem backoffOf_of_found (found : m.controllers[i]? = some d) : m.backoffOf i = d.backoff := by
  simp [backoffOf, found]

/-- What a controller remembers besides its failures is not in the books. -/
theorem books_setController_of_backoff {j : Nat} (found : m.controllers[j]? = some d) {d' : Controller}
    (same : d'.backoff = d.backoff) (q : Nat) : (m.setController j d').books i q = m.books i q := by
  rw [books_setController m i q _ (List.getElem?_eq_some_iff.mp found).1]
  split
  · next ours =>
    subst ours
    rw [same, ← backoffOf_of_found found]
    rfl
  · rfl

/-! ## The end of a pass -/

theorem books_enqueueAfter {q : Nat} (there : q < m.core.width) (k : Key) (delay : Span) :
    PutsOff k delay (m.books i q) ((m.enqueueAfter q k delay).books i q) := by
  unfold enqueueAfter
  split
  · next empty =>
    rw [books_enqueue there, if_pos rfl]
    exact .atOnce empty
  · next lasts =>
    rw [books_spawn]
    have held : (Task.later q k delay none).held? i = (m.books i q).holding m.core.size :=
      (m.holding_size i q).symm
    have deferral : (Task.later q k delay none).deferral? q = some ⟨k, delay, none⟩ := by
      simp [Task.deferral?]
    rw [held, Function.update_eq_self, deferral]
    exact .later (by simpa using lasts) (m.deferred_size i q)

theorem books_enqueueAfter_of_ne {p q : Nat} (other : p ≠ q) (k : Key) (delay : Span) :
    (m.enqueueAfter p k delay).books i q = m.books i q := by
  unfold enqueueAfter
  split
  · exact books_setQueue_of_ne m i q other _
  · exact m.books_spawn_of_plain i q rfl (by simp [Task.deferral?, other])

/-- The result of a pass of the controller's own is settled in the books. -/
theorem settles_settled (there : d.queue < m.core.width) (found : m.controllers[i]? = some d) (k : Key)
    (r : Except Failure Action) :
    Settles ((m.books i d.queue).least k) k (m.books i d.queue) r
      ((m.settled i d k r).books i d.queue) := by
  have inside : i < m.controllers.length := (List.getElem?_eq_some_iff.mp found).1
  have backoff : (m.books i d.queue).backoff = d.backoff := backoffOf_of_found found
  have filed (b : Backoff) : (m.setController i { d with backoff := b }).books i d.queue =
      { m.books i d.queue with backoff := b } := by
    rw [books_setController m i d.queue _ inside, if_pos rfl]
  unfold settled
  split
  · rw [filed, ← backoff]
    exact .rests
  · have again := books_enqueueAfter (i := i)
      (m := m.setController i { d with backoff := d.backoff.reset k }) there k ‹Span›
    rw [filed] at again
    refine .requeues ?_
    rw [backoff]
    exact again
  · exact .leaves _
  · next f lasting =>
    split
    · next worth =>
      have again := books_enqueueAfter (i := i)
        (m := m.setController i { d with backoff := (d.backoff.fail k).2 }) there k
        ((m.jitter m.notes.length).spread (d.backoff.fail k).1)
      rw [filed] at again
      have counts : setsBack (.error f) = true := by
        cases f <;> first | exact worth | exact absurd rfl (lasting _)
      have within : Stretches ((m.books i d.queue).least k)
          ((m.jitter m.notes.length).spread (d.backoff.fail k).1) := by
        rw [Books.least, backoff]
        exact Jitter.stretches _ _
      refine .retries counts within ?_
      rw [backoff]
      exact again
    · next hopeless =>
      rw [filed, ← backoff]
      exact .drops (by simpa using hopeless)

/-- The result of a pass of another controller is not in the books. -/
theorem books_settled_of_ne {j q : Nat} (found : m.controllers[j]? = some d) (other : j ≠ i)
    (apart : d.queue ≠ q) (k : Key) (r : Except Failure Action) :
    (m.settled j d k r).books i q = m.books i q := by
  have inside : j < m.controllers.length := (List.getElem?_eq_some_iff.mp found).1
  have filed (b : Backoff) : (m.setController j { d with backoff := b }).books i q = m.books i q := by
    rw [books_setController m i q _ inside, if_neg other]
  unfold settled
  split
  · exact filed _
  · rw [books_enqueueAfter_of_ne apart, filed]
  · rfl
  · split
    · rw [books_enqueueAfter_of_ne apart, filed]
    · exact filed _

theorem follows_settled (j : Nat) (k : Key) (r : Except Failure Action) :
    Follows d.queue k m.core r (m.settled j d k r).core := by
  unfold settled
  split
  · exact .awaits
  · exact .requeued (retried_enqueueAfter (m.setController j _) _ _ _)
  · exact .cancelled _
  · split
    · next worth => exact .retried worth (retried_enqueueAfter (m.setController j _) _ _ _)
    · next hopeless => exact .dropped (by simpa using hopeless)

variable {id : Nat} {x : Chance} {p : Pass Action} {k : Key} {since : Nat} {resting : Option Nat}

/-- A pass of a worker of the controller ends with a result. -/
theorem Tended.entry_finish (tended : m.Tended team i c) (found : m.controllers[i]? = some d)
    (busy : m.core.task id = .worker i (.busy k p since resting)) (r : Except Failure Action) :
    Entry (m.books i c.queue).least (m.books i c.queue) (.ended k r)
      ((m.finish id i d k r).books i c.queue) := by
  have same : d.queue = c.queue := by
    obtain ⟨e, here, same⟩ := tended.found
    rw [found] at here
    exact Option.some.inj here ▸ same
  rw [← same]
  have there : d.queue < m.core.width := same ▸ tended.there
  have inside : id < m.core.size := m.inside_of_task busy (by simp)
  have held : (m.books i d.queue).holding id = some k := by simp [books, busy, Task.held?]
  let n := (m.note ⟨i, k, .ended⟩).dropAlarms id
  have grows : m.core.Grows (n.settled i d k r).core := (follows_settled (m := n) i k r).grows
  have width : d.queue < (n.settled i d k r).core.width := grows.width ▸ there
  have size : id < ((n.settled i d k r).giveBack d.queue k).core.size := by
    rw [core_giveBack]
    exact Nat.lt_of_lt_of_le inside grows.size
  have free : (Task.worker i .idle).deferral? d.queue =
      ((n.settled i d k r).books i d.queue).deferred id := by
    simp only [books, grows.old id inside, busy]
    rfl
  have ends := Entry.ends held (settles_settled (m := n) there found k r)
  simp only [finish, endPass]
  rw [books_setTask _ i d.queue size, books_giveBack width, if_pos rfl, free, Function.update_eq_self]
  exact ends

/-- A pass of another controller's worker ends. -/
theorem Tended.books_finish_of_ne (tended : m.Tended team i c) {j : Nat}
    (found : m.controllers[j]? = some d) (other : j ≠ i)
    (busy : m.core.task id = .worker j (.busy k p since resting)) (r : Except Failure Action) :
    (m.finish id j d k r).books i c.queue = m.books i c.queue := by
  have inside : id < m.core.size := m.inside_of_task busy (by simp)
  have apart := tended.apart found other
  let n := (m.note ⟨j, k, .ended⟩).dropAlarms id
  have grows : m.core.Grows (n.settled j d k r).core := (follows_settled (m := n) j k r).grows
  have here : ((n.settled j d k r).giveBack d.queue k).core.task id =
      .worker j (.busy k p since resting) := by
    rw [core_giveBack, Core.file_task, grows.old id inside]
    exact busy
  have size : id < ((n.settled j d k r).giveBack d.queue k).core.size := by
    rw [core_giveBack]
    exact Nat.lt_of_lt_of_le inside grows.size
  simp only [finish, endPass]
  rw [books_setTask_of_alike _ i c.queue size (by simp [here, Task.held?, other])
    (by simp [here, Task.deferral?])]
  rw [books_giveBack (grows.width ▸ tended.there), if_neg apart]
  exact books_settled_of_ne (m := n) found other apart k r

/-! ## Turns -/

/-- A turn that adds a key to some queue and lets its task hold what it did. -/
theorem Tended.entry_enqueue (tended : m.Tended team i c) {least : Key → Span} (q : Nat) (k : Key)
    (inside : id < m.core.size) {t : Task} (held : t.held? i = (m.core.task id).held? i)
    (deferral : t.deferral? c.queue = (m.core.task id).deferral? c.queue) :
    Entry least (m.books i c.queue) .quiet (((m.enqueue q k).setTask id t).books i c.queue) := by
  have same : (m.enqueue q k).core.task = m.core.task := by rw [core_enqueue, Core.file_task]
  rw [books_setTask_of_alike _ i c.queue (by rwa [core_enqueue, Core.file_size]) (by rwa [same])
    (by rwa [same]), books_enqueue tended.there]
  split
  · exact .adds [k]
  · exact .same _

/-- A pass that comes to its end is finished. -/
theorem workOn_of_endOf {j : Nat} {r : Except Failure Action}
    (ending : m.endOf d k p since resting = some r) :
    m.workOn id j d k p since resting = .goesOn (m.finish id j d k r) := by
  unfold endOf at ending
  unfold workOn
  split at ending
  · next stopping =>
    cases ending
    rw [if_pos stopping, failPass_eq]
  · next going =>
    rw [if_neg going]
    split at ending
    · cases ending
      exact congrArg Step.goesOn (succeedPass_eq ..)
    · cases ending
      exact congrArg Step.goesOn (failPass_eq ..)
    · split at ending
      · next late =>
        cases ending
        simp only [restOn]
        rw [if_neg (Nat.not_le.mpr late.1), if_pos late.2, failPass_eq]
      · cases ending
    · cases ending

/-- A turn in the midst of a pass that is not its last. -/
theorem Tended.entry_of_endOf (tended : m.Tended team i c) {j : Nat}
    (busy : m.core.task id = .worker j (.busy k p since resting))
    (onward : m.endOf d k p since resting = none) {least : Key → Span} :
    Entry least (m.books i c.queue) .quiet
      ((m.after x (m.workOn id j d k p since resting)).books i c.queue) := by
  have inside : id < m.core.size := m.inside_of_task busy (by simp)
  have stays (n : Machine) (same : n.books i c.queue = m.books i c.queue) :
      Entry least (m.books i c.queue) .quiet (n.books i c.queue) := by
    rw [same]
    exact .same _
  have goesOn (n : Machine) (tasks : n.core.task = m.core.task ∧ n.core.size = m.core.size)
      (same : n.books i c.queue = m.books i c.queue) (p' : Pass Action) (resting' : Option Nat) :
      (n.setTask id (.worker j (.busy k p' since resting'))).books i c.queue = m.books i c.queue :=
    m.books_setTask_of_same i c.queue inside tasks same (by rw [busy]; rfl) (by rw [busy]; rfl)
  have going : m.stopping = false := by
    cases stopping : m.stopping with
    | false => rfl
    | true => simp [endOf, stopping] at onward
  unfold workOn
  rw [going]
  simp only [Bool.false_eq_true, if_false]
  split
  · simp [endOf, going] at onward
  · simp [endOf, going] at onward
  · next span next due =>
    unfold restOn
    split
    · exact stays _ (goesOn (m.note ⟨j, k, .resumed⟩) ⟨rfl, rfl⟩ rfl _ _)
    · next ahead =>
      split
      · next deadline => simp [endOf, going, deadline, Nat.not_le.mp ahead] at onward
      · exact stays m rfl
  · simp only [after]
    refine stays _ ?_
    rw [books_setAlarm, books_setAlarm]
    exact goesOn m ⟨rfl, rfl⟩ rfl _ _
  · next q other next =>
    exact tended.entry_enqueue q other inside (by rw [busy]; rfl) (by rw [busy]; rfl)
  · next r next _ _ _ =>
    exact stays _ (goesOn (m.withCluster (m.cluster.answer x r).2) ⟨rfl, rfl⟩ rfl _ _)

/-- A turn of a worker in the midst of a pass. -/
theorem Tended.entry_workOn (tended : m.Tended team i c) {j : Nat} (found : m.controllers[j]? = some d)
    (busy : m.core.task id = .worker j (.busy k p since resting)) :
    Entry (m.books i c.queue).least (m.books i c.queue) (m.markOfTurn i id)
      ((m.after x (m.workOn id j d k p since resting)).books i c.queue) := by
  obtain ⟨e, ours, _⟩ := tended.found
  unfold markOfTurn
  rw [busy, ours]
  dsimp only
  cases ending : m.endOf d k p since resting with
  | some r =>
    rw [workOn_of_endOf ending]
    split
    · next same =>
      subst same
      obtain rfl := Option.some.inj (found.symm.trans ours)
      rw [ending]
      exact tended.entry_finish found busy r
    · next other =>
      have same := tended.books_finish_of_ne found other busy r
      simp only [after, same]
      exact .same _
  | none =>
    split
    · next same =>
      subst same
      obtain rfl := Option.some.inj (found.symm.trans ours)
      rw [ending]
      exact tended.entry_of_endOf busy ending
    · exact tended.entry_of_endOf busy ending

/-- A try to take a key takes the first one that waits; if none waits, the queue stays as it is. -/
theorem take_all_cases (d : Queue.Dispenser Nat) (id : Nat) :
    (∃ k rest d', d.queue.waiting = k :: rest ∧ d.take id = (.key k, d') ∧
        d'.queue = d.queue.taken k rest) ∨
      d.queue.waiting = [] ∧ (d.take id).2.queue = d.queue ∧ ∀ k, (d.take id).1 ≠ .key k := by
  unfold Queue.Dispenser.take Queue.Dispenser.tryTake Queue.take
  cases waiting : d.queue.waiting with
  | nil => cases closed : d.queue.closed <;> simp
  | cons k rest => exact .inl ⟨k, rest, { d with queue := d.queue.taken k rest }, rfl, rfl, rfl⟩

/-- A worker of another controller takes no key of the controller's, nor gives one back. -/
theorem Tended.books_idle_of_ne (tended : m.Tended team i c) {j : Nat} (other : j ≠ i)
    (idle : m.core.task id = .worker j .idle) : (m.turn id x).books i c.queue = m.books i c.queue := by
  have inside : id < m.core.size := m.inside_of_task idle (by simp)
  have here : m.tasks.getD id .finished = .worker j .idle := idle
  have goesOn (n : Machine) (tasks : n.core.task = m.core.task ∧ n.core.size = m.core.size)
      (same : n.books i c.queue = m.books i c.queue) {t : Task} (held : t.held? i = none)
      (deferral : t.deferral? c.queue = none) :
      (n.setTask id t).books i c.queue = m.books i c.queue :=
    m.books_setTask_of_same i c.queue inside tasks same (by rw [idle]; exact held)
      (by rw [idle]; exact deferral)
  simp only [turn, step, here]
  cases found : m.controllers[j]? with
  | none => exact goesOn m ⟨rfl, rfl⟩ rfl rfl rfl
  | some d =>
    have apart := tended.apart found other
    have queued (d' : Queue.Dispenser Nat) :
        (m.setQueue d.queue (d', [])).books i c.queue = m.books i c.queue :=
      books_setQueue_of_ne m i c.queue apart _
    have tasks (d' : Queue.Dispenser Nat) : (m.setQueue d.queue (d', [])).core.task = m.core.task ∧
        (m.setQueue d.queue (d', [])).core.size = m.core.size := by
      rw [core_setQueue]
      exact ⟨rfl, rfl⟩
    dsimp only
    split
    · next k d' took =>
      have there : (m.setQueue d.queue (d', [])).controllers[j]? = some d := found
      have counted (d'' : Controller) (same : d''.backoff = d.backoff) :
          ((m.setQueue d.queue (d', [])).setController j d'').books i c.queue = m.books i c.queue :=
        (books_setController_of_backoff there same c.queue).trans (queued d')
      split
      · exact (books_setQueue_of_ne _ i c.queue apart _).trans (counted _ (by rfl))
      · exact goesOn (((m.setQueue d.queue (d', [])).setController j _).note ⟨j, k, .started⟩)
          (tasks d') (counted _ (by rfl)) (by simp [Task.held?, other]) rfl
    · exact queued _
    · exact goesOn (m.setQueue d.queue _) (tasks _) (queued _) rfl rfl

/-- The machine in which a worker of a controller has just been handed a key. -/
def withHandout (m : Machine) (i : Nat) (d : Controller) (k : Key) (queue : Queue.Dispenser Nat) : Machine :=
  (m.setQueue d.queue (queue, [])).setController i
    { d with started := d.started.insert k (d.startedOf k + 1) }

/-- A worker that is handed a key begins with it, or gives it back at once if all are to stop. -/
theorem turn_of_take {j : Nat} {queue : Queue.Dispenser Nat} (idle : m.core.task id = .worker j .idle)
    (found : m.controllers[j]? = some d) (took : (m.queue d.queue).take id = (.key k, queue)) :
    m.turn id x =
      if m.stopping then (m.withHandout j d k queue).giveBack d.queue k
      else ((m.withHandout j d k queue).note ⟨j, k, .started⟩).setTask id
        (.worker j (.busy k (d.reconcile k (d.startedOf k)) m.now none)) := by
  have here : m.tasks.getD id .finished = .worker j .idle := idle
  simp only [turn, step, here, found, took]
  change m.after x (if m.stopping then .goesOn ((m.withHandout j d k queue).giveBack d.queue k) else
    .goesOn (((m.withHandout j d k queue).note ⟨j, k, .started⟩).setTask id
      (.worker j (.busy k (d.reconcile k (d.startedOf k)) m.now none)))) = _
  split <;> rfl

/-- A worker that finds no key leaves the queue, and stays idle or ends. -/
theorem turn_of_empty {j : Nat} (idle : m.core.task id = .worker j .idle)
    (found : m.controllers[j]? = some d) (nothing : ∀ k, ((m.queue d.queue).take id).1 ≠ .key k) :
    m.turn id x = m.setQueue d.queue (((m.queue d.queue).take id).2, []) ∨
      m.turn id x = (m.setQueue d.queue (((m.queue d.queue).take id).2, [])).setTask id .finished := by
  have here : m.tasks.getD id .finished = .worker j .idle := idle
  simp only [turn, step, here, found]
  split
  · next k queue took => exact absurd (congrArg Prod.fst took) (nothing k)
  · next queue took =>
    rw [took]
    exact .inl rfl
  · next queue took =>
    rw [took]
    exact .inr rfl

/-- A turn of a worker that looks for a key. -/
theorem Tended.entry_idle (tended : m.Tended team i c) {j : Nat}
    (idle : m.core.task id = .worker j .idle) {least : Key → Span} :
    Entry least (m.books i c.queue) (m.markOfTurn i id) ((m.turn id x).books i c.queue) := by
  obtain ⟨d, ours, same⟩ := tended.found
  by_cases own : j = i
  case neg =>
    rw [tended.books_idle_of_ne own idle, markOfTurn, idle, ours]
    simp only [own, if_false]
    exact .same _
  subst own
  have there := tended.there
  rw [← same] at there ⊢
  have inside : id < m.core.size := m.inside_of_task idle (by simp)
  have here : m.tasks.getD id .finished = .worker j .idle := idle
  have free : (m.books j d.queue).holding id = none := by simp [books, idle, Task.held?]
  have quiet : (m.books j d.queue).deferred id = none := by simp [books, idle, Task.deferral?]
  rw [markOfTurn, idle, ours]
  simp only [if_true]
  rcases take_all_cases (m.queue d.queue) id with ⟨k, rest, queue, waits, took, taken⟩ | ⟨empty, kept, nothing⟩
  · have first : (m.core.queue d.queue).waiting = k :: rest := waits
    have core : (m.withHandout j d k queue).core = m.core.file d.queue queue.queue :=
      core_setQueue m d.queue (queue, [])
    have width : d.queue < (m.withHandout j d k queue).core.width := by rwa [core, Core.file_width]
    have filed : (m.withHandout j d k queue).books j d.queue =
        { m.books j d.queue with queue := (m.books j d.queue).queue.taken k rest } := by
      have ours : (m.setQueue d.queue (queue, [])).controllers[j]? = some d := ours
      rw [withHandout, books_setController_of_backoff ours (by rfl), books_setQueue m there, taken]
      rfl
    rw [turn_of_take idle ours took, first]
    cases stopping : m.stopping with
    | true =>
      simp only [if_true]
      rw [books_giveBack width, if_pos rfl, filed]
      exact .declines waits
    | false =>
      simp only [Bool.false_eq_true, if_false]
      have size : id < ((m.withHandout j d k queue).note ⟨j, k, .started⟩).core.size := by
        rw [core_note, core, Core.file_size]
        exact inside
      rw [books_setTask _ j d.queue size, books_note, filed]
      have none : (Task.worker j (.busy k (d.reconcile k (d.startedOf k)) m.now none)).deferral? d.queue =
          (m.books j d.queue).deferred id := quiet.symm
      have held : (Task.worker j (.busy k (d.reconcile k (d.startedOf k)) m.now .none)).held? j = some k := by
        simp [Task.held?]
      rw [none, held, Function.update_eq_self]
      exact .begins free waits
  · have first : (m.core.queue d.queue).waiting = [] := empty
    have stays : (m.setQueue d.queue (((m.queue d.queue).take id).2, [])).books j d.queue =
        m.books j d.queue := by
      rw [books_setQueue m there, kept]
      rfl
    rw [first]
    rcases turn_of_empty idle ours nothing with same | same
    · rw [same, stays]
      exact .same _
    · have core := core_setQueue m d.queue (((m.queue d.queue).take id).2, [])
      rw [same, books_setTask_of_alike _ j d.queue (by rw [core]; exact inside)
        (by rw [core, Core.file_task, idle]; rfl) (by rw [core, Core.file_task, idle]; rfl), stays]
      exact .same _

/-! ## The other tasks -/

/-- A new task of a controller neither holds a key nor adds one later. -/
theorem plain_partsOf {j : Nat} {t : Task} (part : t ∈ m.partsOf j d) (i q : Nat) :
    t.held? i = none ∧ t.deferral? q = none := by
  simp only [partsOf, List.mem_append, List.mem_map, List.mem_cons, List.mem_replicate] at part
  rcases part with ⟨w, -, rfl⟩ | rfl | ⟨-, rfl⟩ <;> exact ⟨rfl, rfl⟩

theorem books_spawnAll_of_plain {q : Nat} {all : List Task}
    (plain : ∀ t ∈ all, t.held? i = none ∧ t.deferral? q = none) :
    (m.spawnAll all).books i q = m.books i q := by
  induction all generalizing m with
  | nil => rfl
  | cons t all ih =>
    rw [List.forall_mem_cons] at plain
    exact (ih plain.2 (m := m.spawn t)).trans (m.books_spawn_of_plain i q plain.1.1 plain.1.2)

/-- Those who start are not in the books yet. -/
theorem books_launchAll (all : List Nat) (i q : Nat) : (m.launchAll all).books i q = m.books i q := by
  induction all generalizing m with
  | nil => rfl
  | cons j all ih =>
    simp only [launchAll, List.foldl_cons] at ih ⊢
    rw [ih]
    split
    · rfl
    · exact books_spawnAll_of_plain fun t part => plain_partsOf part i q

theorem size_launchAll (all : List Nat) : m.core.size ≤ (m.launchAll all).core.size ∧
    ∀ id < m.core.size, (m.launchAll all).core.task id = m.core.task id := by
  induction all generalizing m with
  | nil => exact ⟨Nat.le_refl _, fun _ _ => rfl⟩
  | cons j all ih =>
    simp only [launchAll, List.foldl_cons] at ih ⊢
    split
    · exact ih
    · next d found =>
      have more := Core.le_size_pushAll m.core (m.partsOf j d)
      rw [← core_spawnAll] at more
      refine ⟨more.trans ih.1, fun id old => (ih.2 id (Nat.lt_of_lt_of_le old more)).trans ?_⟩
      rw [core_spawnAll]
      exact Core.pushAll_task_of_lt _ old

/-- At the end, a queue is closed or left. -/
theorem books_closeAll {q : Nat} (there : q < m.core.width) (all : List Nat) :
    (m.closeAll all).books i q = m.books i q ∨
      (m.closeAll all).books i q = { m.books i q with queue := (m.books i q).queue.close } := by
  induction all generalizing m with
  | nil => exact .inl rfl
  | cons j all ih =>
    simp only [closeAll, List.foldl_cons] at ih ⊢
    split
    · exact ih there
    · next d found =>
      have width : q < (m.setQueue d.queue (m.queue d.queue).close).core.width := by
        rwa [core_setQueue, Core.file_width]
      have rest := ih width
      by_cases ours : d.queue = q
      · subst ours
        rw [books_setQueue m there] at rest
        exact .inr (rest.elim id id)
      · rwa [books_setQueue_of_ne m i q ours] at rest

theorem core_closeAll (all : List Nat) : (m.closeAll all).core.size = m.core.size ∧
    (m.closeAll all).core.task = m.core.task ∧ (m.closeAll all).core.width = m.core.width := by
  induction all generalizing m with
  | nil => exact ⟨rfl, rfl, rfl⟩
  | cons j all ih =>
    simp only [closeAll, List.foldl_cons] at ih ⊢
    split
    · exact ih
    · next d found =>
      have rest := ih (m := m.setQueue d.queue (m.queue d.queue).close)
      rwa [core_setQueue] at rest

theorem plain_of_gathers {j : Nat} {t : Task} {p : Pass (List Key)}
    {again : Option (Pass (List Key)) → Task} (gathers : t.Gathers j p again) (i q : Nat) :
    (t.held? i = none ∧ t.deferral? q = none) ∧
      ∀ o, (again o).held? i = none ∧ (again o).deferral? q = none := by
  cases gathers <;> exact ⟨⟨rfl, rfl⟩, fun _ => ⟨rfl, rfl⟩⟩

variable {least : Key → Span}

/-- A turn of a task that collects keys for a controller. -/
theorem Tended.entry_collect (tended : m.Tended team i c) (inside : id < m.core.size) {j : Nat}
    {p : Pass (List Key)} {again : Option (Pass (List Key)) → Task}
    (gathers : (m.core.task id).Gathers j p again) :
    Entry least (m.books i c.queue) .quiet
      ((m.after x (m.collect id j p again)).books i c.queue) := by
  obtain ⟨⟨held, deferral⟩, plain⟩ := plain_of_gathers gathers i c.queue
  have stays (n : Machine) (tasks : n.core.task = m.core.task ∧ n.core.size = m.core.size)
      (same : n.books i c.queue = m.books i c.queue) (o : Option (Pass (List Key))) :
      (n.setTask id (again o)).books i c.queue = m.books i c.queue :=
    m.books_setTask_of_same i c.queue inside tasks same ((plain o).1.trans held.symm)
      ((plain o).2.trans deferral.symm)
  cases p with
  | done keys =>
    simp only [collect]
    split
    · simp only [after, stays m ⟨rfl, rfl⟩ rfl]
      exact .same _
    · next d found =>
      have there : c.queue < (m.setTask id (again none)).core.width := by
        rw [core_setTask m inside]
        exact tended.there
      simp only [after]
      rw [books_enqueueAll there, stays m ⟨rfl, rfl⟩ rfl]
      split
      · exact .adds keys
      · exact .same _
  | fail f =>
    simp only [collect, after, stays m ⟨rfl, rfl⟩ rfl]
    exact .same _
  | ask r next =>
    simp only [collect, after]
    rw [stays (m.withCluster (m.cluster.answer x r).2) ⟨rfl, rfl⟩ rfl]
    exact .same _

/-- The first turn of a task that adds a key later sets the alarm; when the instant has come the key is
added. -/
theorem turn_later {q : Nat} {k : Key} {delay : Span} {due : Option Nat}
    (waits : m.core.task id = .later q k delay due) :
    m.turn id x = match due with
      | none => (m.setTask id (.later q k delay (some (m.dueAfter delay)))).setAlarm (m.dueAfter delay) id
      | some due =>
        if due ≤ m.now then (m.enqueue q k).setTask id .finished
        else m.setTask id (.later q k delay (some due)) := by
  have here : m.tasks.getD id .finished = .later q k delay due := waits
  cases due with
  | none => simp only [turn, step, here, after]
  | some due =>
    simp only [turn, step, here]
    split <;> rfl

/-- A turn of a task that adds a key to the queue later serves it. -/
theorem books_turn_later {q : Nat} (there : q < m.core.width) {k : Key} {delay : Span}
    {due : Option Nat} (waits : m.core.task id = .later q k delay due) :
    (m.turn id x).books i q = (m.books i q).served id ⟨k, delay, due⟩ := by
  have inside : id < m.core.size := m.inside_of_task waits (by simp)
  have holds : (m.books i q).holding id = none := by simp [books, waits, Task.held?]
  rw [turn_later waits]
  cases due with
  | none =>
    rw [books_setAlarm, books_setTask m i q inside]
    have held : (Task.later q k delay (some (m.dueAfter delay))).held? i = (m.books i q).holding id :=
      holds.symm
    have deferral : (Task.later q k delay (some (m.dueAfter delay))).deferral? q =
        some ⟨k, delay, some (m.dueAfter delay)⟩ := by simp [Task.deferral?]
    rw [held, deferral, Function.update_eq_self]
    rfl
  | some due =>
    simp only [Books.served]
    split
    · next come =>
      have core := core_enqueue m q k
      rw [books_setTask _ i q (by rw [core]; exact inside), books_enqueue there, if_pos rfl,
        if_pos (show due ≤ (m.books i q).now from come)]
      have held : Task.finished.held? i = (m.books i q).holding id := holds.symm
      rw [held, Function.update_eq_self]
      rfl
    · next early =>
      rw [if_neg (show ¬ due ≤ (m.books i q).now from early)]
      exact books_setTask_of_alike m i q inside (by rw [waits]) (by rw [waits])

/-- A turn of a task that adds a key to another queue later. -/
theorem books_turn_later_of_ne {p q : Nat} (other : p ≠ q) {k : Key} {delay : Span}
    {due : Option Nat} (waits : m.core.task id = .later p k delay due) :
    (m.turn id x).books i q = m.books i q := by
  have inside : id < m.core.size := m.inside_of_task waits (by simp)
  have stays (n : Machine) (tasks : n.core.task = m.core.task ∧ n.core.size = m.core.size)
      (same : n.books i q = m.books i q) {t : Task} (held : t.held? i = none)
      (deferral : t.deferral? q = none) : (n.setTask id t).books i q = m.books i q :=
    m.books_setTask_of_same i q inside tasks same (by rw [waits]; exact held)
      (by rw [waits, deferral]; simp [Task.deferral?, other])
  rw [turn_later waits]
  cases due with
  | none =>
    rw [books_setAlarm]
    exact stays m ⟨rfl, rfl⟩ rfl rfl (by simp [Task.deferral?, other])
  | some due =>
    dsimp only
    split
    · refine stays (m.enqueue p k) ?_ (books_setQueue_of_ne m i q other _) rfl rfl
      rw [core_enqueue]
      exact ⟨rfl, rfl⟩
    · exact stays m ⟨rfl, rfl⟩ rfl rfl (by simp [Task.deferral?, other])

/-- A turn of a task that adds a key later. -/
theorem Tended.entry_later (tended : m.Tended team i c) {q : Nat} {k : Key} {delay : Span}
    {due : Option Nat} (waits : m.core.task id = .later q k delay due) :
    Entry least (m.books i c.queue) .quiet ((m.turn id x).books i c.queue) := by
  by_cases ours : q = c.queue
  · subst ours
    rw [books_turn_later tended.there waits]
    exact .serves (by simp [books, waits, Task.deferral?])
  · rw [books_turn_later_of_ne ours waits]
    exact .same _

/-! ## Moves -/

theorem markOfTurn_of_other (other : (m.core.task id).isWorker = false) :
    m.markOfTurn i id = .quiet := by
  unfold markOfTurn
  split
  · next j work d here _ =>
    rw [here] at other
    cases other
  · rfl

/-! ## Every turn of a task -/

/-- A launch leaves the books as they are. -/
theorem books_launch {all : List Nat} (here : m.core.task id = .launch all) (i q : Nat) :
    (m.turn id x).books i q = m.books i q := by
  have there : m.tasks.getD id .finished = .launch all := here
  obtain ⟨size, old⟩ := size_launchAll (m := m) all
  have inside := m.inside_of_task here (by simp)
  have launched : ((m.launchAll all).setTask id (.supervise all)).books i q = m.books i q := by
    rw [books_setTask_of_alike _ i q (Nat.lt_of_lt_of_le inside size)
      (by rw [old id inside, here]; rfl) (by rw [old id inside, here]; rfl), books_launchAll]
  simp only [turn, step, there]
  split <;> exact launched

/-- Who waits for the end closes the queue then. -/
theorem Tended.entry_supervise (tended : m.Tended team i c) {all : List Nat}
    (here : m.core.task id = .supervise all) :
    Entry least (m.books i c.queue) .quiet ((m.turn id x).books i c.queue) := by
  have there : m.tasks.getD id .finished = .supervise all := here
  obtain ⟨size, same, _⟩ := core_closeAll (m := m) all
  simp only [turn, step, there]
  split
  · simp only [after]
    rw [books_setTask_of_alike _ i c.queue (size ▸ m.inside_of_task here (by simp))
      (by rw [same, here]; rfl) (by rw [same, here]; rfl)]
    rcases books_closeAll tended.there all (i := i) with left | closed
    · exact .of_eq left
    · rw [closed]
      exact .closes
  · exact .same _

/-- A look at a store leaves the books as they are. -/
theorem books_watch {j seen : Nat} {w : Watch} (here : m.core.task id = .watch j w seen none) (i q : Nat) :
    (m.turn id x).books i q = m.books i q := by
  have there : m.tasks.getD id .finished = .watch j w seen none := here
  have inside := m.inside_of_task here (by simp)
  have alike {t : Task} (held : t.held? i = none) (deferral : t.deferral? q = none) :
      (m.setTask id t).books i q = m.books i q :=
    books_setTask_of_alike m i q inside (by rw [here, held]; rfl) (by rw [here, deferral]; rfl)
  simp only [turn, step, there]
  split
  · exact alike rfl rfl
  · split
    · exact alike rfl rfl
    · exact alike rfl rfl
    · rfl

/-- A wait for the next listing, and its beginning, leave the books as they are. -/
theorem books_resync {j due : Nat} (here : m.core.task id = .resync j due none) (i q : Nat) :
    (m.turn id x).books i q = m.books i q := by
  have there : m.tasks.getD id .finished = .resync j due none := here
  have inside := m.inside_of_task here (by simp)
  have alike {t : Task} (held : t.held? i = none) (deferral : t.deferral? q = none) :
      (m.setTask id t).books i q = m.books i q :=
    books_setTask_of_alike m i q inside (by rw [here, held]; rfl) (by rw [here, deferral]; rfl)
  simp only [turn, step, there]
  split
  · exact alike rfl rfl
  · split
    · exact alike rfl rfl
    · split
      · exact alike rfl rfl
      · exact books_setAlarm m i q _ _

/-- A turn of a worker is an entry, whether it works for this controller or another one. -/
theorem Tended.entry_worker (tended : m.Tended team i c) {j : Nat} {work : Work}
    (here : m.core.task id = .worker j work) :
    Entry (m.books i c.queue).least (m.books i c.queue) (m.markOfTurn i id)
      ((m.turn id x).books i c.queue) := by
  cases work with
  | idle => exact tended.entry_idle here
  | busy k p since resting =>
    have there : m.tasks.getD id .finished = .worker j (.busy k p since resting) := here
    cases found : m.controllers[j]? with
    | some d =>
      simp only [turn, step, there, found]
      exact tended.entry_workOn found here
    | none =>
      obtain ⟨d, ours, _⟩ := tended.found
      have other : j ≠ i := by
        rintro rfl
        rw [ours] at found
        cases found
      have quiet : m.markOfTurn i id = .quiet := by
        rw [markOfTurn, here, ours]
        simp [other]
      have spares : (m.core.task id).held? i = none := by
        rw [here]
        simp [Task.held?, other]
      simp only [turn, step, there, found, quiet]
      exact .of_eq (books_setTask_of_alike m i c.queue (m.inside_of_task here (by simp)) spares.symm
        (by rw [here]; rfl))

/-- Every turn of a task is an entry in the books. -/
theorem Tended.entry_turn (tended : m.Tended team i c) (id : Nat) (x : Chance) :
    Entry (m.books i c.queue).least (m.books i c.queue) (m.markOfTurn i id)
      ((m.turn id x).books i c.queue) := by
  by_cases works : (m.core.task id).isWorker = true
  · cases here : m.core.task id with
    | worker j work => exact tended.entry_worker here
    | _ => rw [here] at works; cases works
  rw [markOfTurn_of_other (by simpa using works)]
  rcases there : m.tasks.getD id .finished with
    all | all | ⟨j, w, seen, _ | p⟩ | ⟨j, due, _ | p⟩ | ⟨j, work⟩ | ⟨q, k, delay, due⟩ | q | h | _
  · exact .of_eq (books_launch there i c.queue)
  · exact tended.entry_supervise there
  · exact .of_eq (books_watch there i c.queue)
  · have here : m.core.task id = .watch j w seen (some p) := there
    simp only [turn, step, there]
    exact tended.entry_collect (m.inside_of_task here (by simp)) (by rw [here]; exact .watch j w seen p)
  · exact .of_eq (books_resync there i c.queue)
  · have here : m.core.task id = .resync j due (some p) := there
    simp only [turn, step, there]
    exact tended.entry_collect (m.inside_of_task here (by simp)) (by rw [here]; exact .resync j due p)
  · have here : m.core.task id = .worker j work := there
    rw [here] at works
    exact absurd rfl works
  · exact tended.entry_later there
  · exact absurd there (tended.ours id q)
  · simp only [turn, step, there]
    exact .same _
  · simp only [turn, step, there]
    exact .same _

end Machine

end TokenSteward.Controller
