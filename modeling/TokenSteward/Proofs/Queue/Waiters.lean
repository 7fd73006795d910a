import TokenSteward.Proofs.Queue.Course
import TokenSteward.Proofs.Works.TaskStep

/-! # Those who wait for keys

Any number of tasks wait for the keys of one queue, others come by, take a key and go away, keys are
added, at once or later, and given back, and at some time the queue is closed. Who is woken has to try
again, and may find that another was faster. Still nobody waits beside a key, or after the end, once all
who were woken have run: as long as someone waits, there are at least as many on their way to the queue
as there are keys in it.
-/

namespace TokenSteward.Controller

open TokenSteward.Cluster TokenSteward.Resource TokenSteward.Queue

/-- What happens around a queue. Someone begins to wait for a key, or takes one if there is one; a key
is added, at once or later, or given back; the queue is closed; a task that was woken runs; time
passes. -/
inductive Stir where
  | waits
  | tries
  | adds (k : Key)
  | delays (k : Key) (delay : Time.Span)
  | gives (k : Key)
  | closes
  | runs (id : Nat)
  | passes (now : Nat)

/-- Whether a task waits for a key. -/
def Task.seeks : Task → Bool
  | .getter _ => true
  | _ => false

/-- A task that has to do with nothing but one queue. -/
inductive Task.Local : Task → Prop where
  | getter : Local (.getter 0)
  | later (k : Key) (delay : Time.Span) (due : Option Nat) : Local (.later 0 k delay due)
  | got (h : Handout) : Local (.got h)
  | finished : Local .finished

namespace Machine

/-- The machine after a task was called from the line of those who are ready. -/
def called (m : Machine) (id : Nat) : Machine := { m with ready := m.ready.erase id }

/-- The machine after something happened around its first queue. -/
def stirred (m : Machine) : Stir → Machine
  | .waits => m.spawn (.getter 0)
  | .tries => m.setQueue 0 ((m.queue 0).tryTake.2, [])
  | .adds k => m.enqueue 0 k
  | .delays k delay => m.enqueueAfter 0 k delay
  | .gives k => m.giveBack 0 k
  | .closes => m.setQueue 0 (m.queue 0).close
  | .runs id => if id ∈ m.ready then (m.called id).turn id .quiet else m
  | .passes now => m.pass now

/-- The number of tasks that were woken to look for a key and have not run since. -/
def seekers (m : Machine) : Nat := m.ready.countP fun id => (m.core.task id).seeks

/-- Who waits for a key stands in the line of those who are ready or of those who are to be woken, and
while someone is to be woken, no key lacks a seeker. -/
structure Attended (m : Machine) : Prop where
  there : 0 < m.queues.length
  locals : ∀ id, (m.core.task id).Local
  inside : ∀ id ∈ m.ready, id < m.core.size
  line : m.ready.Nodup
  once : (m.queue 0).parked.Nodup
  parked : ∀ id ∈ (m.queue 0).parked, (m.core.task id).seeks = true ∧ id ∉ m.ready
  found : ∀ id, (m.core.task id).seeks = true → id ∈ (m.queue 0).parked ∨ id ∈ m.ready
  alarms : ∀ a ∈ m.alarms, a.task < m.core.size ∧ (m.core.task a.task).seeks = false
  enough : (m.queue 0).parked = [] ∨ (m.queue 0).queue.waiting.length ≤ m.seekers
  shut : (m.queue 0).queue.closed = true → (m.queue 0).parked = []

variable {m : Machine} {id : Nat}

/-! ## The line of those who are ready -/

theorem mem_joinLine {line : List Nat} {j : Nat} : j ∈ joinLine line id ↔ j ∈ line ∨ j = id := by
  unfold joinLine
  split
  · next present =>
    rw [List.contains_iff_mem] at present
    constructor
    · exact .inl
    · rintro (early | rfl)
      · exact early
      · exact present
  · simp

theorem nodup_joinLine {line : List Nat} (once : line.Nodup) : (joinLine line id).Nodup := by
  unfold joinLine
  split
  · exact once
  · next absent =>
    rw [List.contains_iff_mem] at absent
    exact nodup_snoc once absent

theorem sublist_joinLine (line : List Nat) : line.Sublist (joinLine line id) := by
  unfold joinLine
  split
  · exact List.Sublist.refl _
  · exact List.sublist_append_left _ _

theorem mem_ready_wake {all : List Nat} : id ∈ (m.wake all).ready ↔ id ∈ m.ready ∨ id ∈ all := by
  simp only [wake]
  generalize m.ready = line
  induction all generalizing line with
  | nil => simp
  | cons i all ih => simp [ih, mem_joinLine, or_assoc]

theorem nodup_ready_wake (once : m.ready.Nodup) (all : List Nat) : (m.wake all).ready.Nodup := by
  simp only [wake]
  generalize m.ready = line at once ⊢
  induction all generalizing line with
  | nil => exact once
  | cons i all ih => exact ih _ (nodup_joinLine once)

theorem sublist_ready_wake (all : List Nat) : m.ready.Sublist (m.wake all).ready := by
  simp only [wake]
  generalize m.ready = line
  induction all generalizing line with
  | nil => exact List.Sublist.refl _
  | cons i all ih => exact (sublist_joinLine line).trans (ih _)

theorem seekers_wake_le (all : List Nat) : m.seekers ≤ (m.wake all).seekers :=
  (sublist_ready_wake all).countP_le

/-- Those who are woken without being ready stand behind those who are. -/
theorem ready_wake {all : List Nat} (once : all.Nodup) (resting : ∀ id ∈ all, id ∉ m.ready) :
    (m.wake all).ready = m.ready ++ all := by
  simp only [wake]
  generalize m.ready = line at resting ⊢
  induction all generalizing line with
  | nil => simp
  | cons i all ih =>
    rw [List.nodup_cons] at once
    have joined : joinLine line i = line ++ [i] := by
      simp [joinLine, resting i List.mem_cons_self]
    rw [List.foldl_cons, joined, ih once.2, List.append_assoc, List.singleton_append]
    intro j woken early
    rcases List.mem_append.mp early with early | here
    · exact resting j (List.mem_cons_of_mem i woken) early
    · exact once.1 (List.mem_singleton.mp here ▸ woken)

/-- Each of those who are woken to look for a key without being ready is one seeker more. -/
theorem seekers_wake {all : List Nat} (once : all.Nodup)
    (resting : ∀ id ∈ all, (m.core.task id).seeks = true ∧ id ∉ m.ready) :
    (m.wake all).seekers = m.seekers + all.length := by
  rw [seekers, ready_wake once fun id woken => (resting id woken).2, core_wake, List.countP_append,
    List.countP_eq_length.mpr fun id woken => (resting id woken).1]
  rfl

theorem queue_setQueue (there : 0 < m.queues.length) (d : Dispenser Nat) (woken : List Nat) :
    (m.setQueue 0 (d, woken)).queue 0 = d := by
  simp [setQueue, wake, queue, List.getD, there]

/-- Who waits for a key is a task. -/
theorem lt_size_of_seeks (seeks : (m.core.task id).seeks = true) : id < m.core.size := by
  apply Core.lt_size m.fits_core
  intro none
  rw [none] at seeks
  contradiction

/-! ## What keeps the waiters attended -/

/-- Waking tasks that do not wait for keys changes nothing for those who do. -/
theorem Attended.wake (attended : Attended m) {all : List Nat}
    (others : ∀ id ∈ all, id < m.core.size ∧ (m.core.task id).seeks = false) :
    Attended (m.wake all) := by
  obtain ⟨there, locals, inside, line, once, parked, found, alarms, enough, shut⟩ := attended
  refine ⟨there, locals, ?_, nodup_ready_wake line all, once, ?_, ?_, alarms, ?_, shut⟩
  · intro id ready
    rcases mem_ready_wake.mp ready with early | woken
    · exact inside id early
    · exact (others id woken).1
  · intro id waits
    refine ⟨(parked id waits).1, ?_⟩
    intro ready
    rcases mem_ready_wake.mp ready with early | woken
    · exact (parked id waits).2 early
    · have idle := (others id woken).2
      rw [(parked id waits).1] at idle
      contradiction
  · intro id seeks
    exact (found id seeks).imp_right fun early => mem_ready_wake.mpr (.inl early)
  · exact enough.imp_right fun few => Nat.le_trans few (seekers_wake_le all)

/-- Where the first of those who wait are woken, the rest stay attended if nobody is left or there are
no more new keys than were woken. -/
theorem Attended.rouse (attended : Attended m) {d : Dispenser Nat} {woken : List Nat}
    (parked : (m.queue 0).parked = woken ++ d.parked)
    (enough : d.parked = [] ∨
      d.queue.waiting.length ≤ (m.queue 0).queue.waiting.length + woken.length)
    (shut : d.queue.closed = true → d.parked = []) : Attended (m.setQueue 0 (d, woken)) := by
  have now := queue_setQueue attended.there d woken
  have before : ∀ j ∈ woken, j ∈ (m.queue 0).parked := fun j here =>
    parked ▸ List.mem_append_left _ here
  have still : ∀ j ∈ d.parked, j ∈ (m.queue 0).parked := fun j here =>
    parked ▸ List.mem_append_right _ here
  have once := attended.once
  rw [parked, List.nodup_append] at once
  have ready (j : Nat) : j ∈ (m.setQueue 0 (d, woken)).ready ↔ j ∈ m.ready ∨ j ∈ woken :=
    mem_ready_wake
  refine ⟨?_, attended.locals, ?_, nodup_ready_wake attended.line woken, ?_, ?_, ?_, attended.alarms,
    ?_, ?_⟩
  · simpa [Machine.setQueue, Machine.wake] using attended.there
  · intro j here
    rcases (ready j).mp here with early | late
    · exact attended.inside j early
    · exact lt_size_of_seeks (attended.parked j (before j late)).1
  · rw [now]
    exact once.2.1
  · rw [now]
    intro j waits
    refine ⟨(attended.parked j (still j waits)).1, ?_⟩
    intro here
    rcases (ready j).mp here with early | late
    · exact (attended.parked j (still j waits)).2 early
    · exact once.2.2 j late j waits rfl
  · rw [now]
    intro j seeks
    rw [ready]
    rcases attended.found j seeks with waits | early
    · rw [parked] at waits
      rcases List.mem_append.mp waits with late | waits
      · exact .inr (.inr late)
      · exact .inl waits
    · exact .inr (.inl early)
  · rw [now]
    have more : (m.setQueue 0 (d, woken)).seekers = m.seekers + woken.length :=
      seekers_wake once.1 fun j late => attended.parked j (before j late)
    rcases enough with nobody | few
    · exact .inl nobody
    · rcases attended.enough with nobody | before
      · rw [parked] at nobody
        exact .inl (List.append_eq_nil_iff.mp nobody).2
      · right
        omega
  · rw [now]
    exact shut

/-- If a key comes to wait, someone is woken to look for it. -/
theorem Attended.changed (attended : Attended m) {change : Queue × Bool}
    (grows : change.1.waiting.length =
      (m.queue 0).queue.waiting.length + if change.2 then 1 else 0)
    (closed : change.1.closed = (m.queue 0).queue.closed) :
    Attended (m.setQueue 0 ((m.queue 0).changed change)) := by
  have shut := attended.shut
  rw [← closed] at shut
  obtain ⟨q, came⟩ := change
  cases came with
  | false => exact attended.rouse rfl (.inr (Nat.le_of_eq grows)) shut
  | true =>
    cases waiters : (m.queue 0).parked with
    | nil =>
      have kept : (m.queue 0).changed (q, true) = (⟨q, true, []⟩, []) := by
        simp [Dispenser.changed, Dispenser.notify, waiters]
      rw [kept]
      exact attended.rouse waiters (.inl rfl) fun _ => rfl
    | cons i rest =>
      have woken : (m.queue 0).changed (q, true) = (⟨q, (m.queue 0).permit, rest⟩, [i]) := by
        simp [Dispenser.changed, Dispenser.notify, waiters]
      rw [woken]
      refine attended.rouse waiters (.inr (Nat.le_of_eq grows)) ?_
      intro closes
      have nobody := shut closes
      rw [waiters] at nobody
      contradiction

theorem Attended.enqueue (attended : Attended m) (k : Key) : Attended (m.enqueue 0 k) := by
  refine attended.changed ?_ (closed_add k)
  have grows := congrArg List.length (waiting_next (q := (m.queue 0).queue) (.add k))
  simp only [Call.enters, Call.brings, Call.next, List.length_append, List.filterMap_nil,
    List.nil_append] at grows
  rw [← grows]
  split <;> rfl

theorem Attended.giveBack (attended : Attended m) (k : Key) : Attended (m.giveBack 0 k) := by
  refine attended.changed ?_ (closed_done k)
  have grows := congrArg List.length (waiting_next (q := (m.queue 0).queue) (.done k))
  simp only [Call.enters, Call.brings, Call.next, List.length_append, List.filterMap_nil,
    List.nil_append] at grows
  rw [← grows]
  split <;> rfl

/-- The end wakes all who wait. -/
theorem Attended.close (attended : Attended m) : Attended (m.setQueue 0 (m.queue 0).close) :=
  attended.rouse (List.append_nil _).symm (.inl rfl) fun _ => rfl

/-- A try to take a key takes the first, or finds nothing, or the end. -/
theorem tryTake_cases (d : Dispenser Nat) :
    (∃ k rest, d.queue.waiting = k :: rest ∧
        d.tryTake = (.key k, { d with queue := d.queue.taken k rest })) ∨
      (d.queue.waiting = [] ∧ d.queue.closed = false ∧
        d.tryTake = (.nothing, { d with permit := false })) ∨
      d.queue.closed = true ∧ d.tryTake = (.closed, d) := by
  cases waits : d.queue.waiting with
  | cons k rest => exact .inl ⟨k, rest, rfl, by simp only [Dispenser.tryTake, take_cons waits]⟩
  | nil =>
    cases shut : d.queue.closed with
    | false => exact .inr (.inl ⟨rfl, rfl, by simp [Dispenser.tryTake, take_nil waits, shut]⟩)
    | true => exact .inr (.inr ⟨rfl, by simp [Dispenser.tryTake, take_nil waits, shut]⟩)

/-- Who takes a key without waiting leaves those who wait as they are. -/
theorem Attended.tries (attended : Attended m) :
    Attended (m.setQueue 0 ((m.queue 0).tryTake.2, [])) := by
  rcases tryTake_cases (m.queue 0) with ⟨k, rest, waits, took⟩ | ⟨-, -, nothing⟩ | ⟨-, closed⟩
  · rw [took]
    refine attended.rouse rfl (.inr ?_) attended.shut
    simp [Queue.taken, waits]
  · rw [nothing]
    exact attended.rouse rfl (.inr (Nat.le_refl _)) attended.shut
  · rw [closed]
    exact attended.rouse rfl (.inr (Nat.le_refl _)) attended.shut

/-- A new task stands in line. -/
theorem Attended.spawn (attended : Attended m) {t : Task} (isLocal : t.Local) :
    Attended (m.spawn t) := by
  obtain ⟨there, locals, inside, line, once, parked, found, alarms, enough, shut⟩ := attended
  have core := core_spawn m t
  have old {id : Nat} (before : id < m.core.size) : (m.spawn t).core.task id = m.core.task id := by
    rw [core, Core.push_task_of_ne _ _ (Nat.ne_of_lt before)]
  have size : (m.spawn t).core.size = m.core.size + 1 := by rw [core, Core.push_size]
  have ready : (m.spawn t).ready = m.ready ++ [m.core.size] := rfl
  refine ⟨there, ?_, ?_, ?_, once, ?_, ?_, ?_, ?_, shut⟩
  · intro id
    rw [core]
    by_cases last : id = m.core.size
    · rw [last, Core.push_task_self]
      exact isLocal
    · rw [Core.push_task_of_ne _ _ last]
      exact locals id
  · rw [ready, size]
    refine forall_mem_snoc ?_ (Nat.lt_succ_self _)
    exact fun id early => Nat.lt_succ_of_lt (inside id early)
  · rw [ready]
    exact nodup_snoc line fun early => Nat.lt_irrefl _ (inside _ early)
  · intro id waits
    have before := lt_size_of_seeks (parked id waits).1
    rw [old before, ready, List.mem_append, List.mem_singleton]
    refine ⟨(parked id waits).1, ?_⟩
    rintro (early | rfl)
    · exact (parked id waits).2 early
    · exact Nat.lt_irrefl _ before
  · intro id seeks
    rw [ready, List.mem_append, List.mem_singleton]
    by_cases last : id = m.core.size
    · exact .inr (.inr last)
    · rw [core, Core.push_task_of_ne _ _ last] at seeks
      exact (found id seeks).imp_right .inl
  · intro a set
    have old' := old (alarms a set).1
    rw [old', size]
    exact ⟨Nat.lt_succ_of_lt (alarms a set).1, (alarms a set).2⟩
  · apply enough.imp_right
    intro few
    refine Nat.le_trans few ?_
    rw [seekers, seekers, ready, List.countP_append]
    have same : m.ready.countP (fun id => ((m.spawn t).core.task id).seeks) =
        m.ready.countP fun id => (m.core.task id).seeks :=
      List.countP_congr fun id early => by rw [old (inside id early)]
    rw [same]
    exact Nat.le_add_right _ _

/-- Time wakes only tasks that do not seek keys. -/
theorem Attended.pass (attended : Attended m) (now : Nat) : Attended (m.pass now) := by
  have left : Attended { m with
      now := now
      alarms := (m.alarms.partition fun a => decide (a.due ≤ now)).2 } := by
    refine ⟨attended.there, attended.locals, attended.inside, attended.line, attended.once,
      attended.parked, attended.found, ?_, attended.enough, attended.shut⟩
    intro a set
    rw [List.partition_eq_filter_filter] at set
    exact attended.alarms a (List.mem_filter.mp set).1
  have others : ∀ a ∈ (m.alarms.partition fun a => decide (a.due ≤ now)).1,
      a.task < m.core.size ∧ (m.core.task a.task).seeks = false := by
    intro a due
    rw [List.partition_eq_filter_filter] at due
    exact attended.alarms a (List.mem_filter.mp due).1
  apply left.wake
  intro id woken
  obtain ⟨a, due, rfl⟩ := List.mem_map.mp woken
  exact others a (List.mem_mergeSort.mp due)

theorem Attended.setAlarm (attended : Attended m) (due : Nat) (inside : id < m.core.size)
    (idle : (m.core.task id).seeks = false) : Attended (m.setAlarm due id) := by
  unfold Machine.setAlarm
  split
  · exact attended
  · exact ⟨attended.there, attended.locals, attended.inside, attended.line, attended.once,
      attended.parked, attended.found, forall_mem_snoc attended.alarms ⟨inside, idle⟩,
      attended.enough, attended.shut⟩

theorem Attended.setTask (attended : Attended m) (idle : (m.core.task id).seeks = false) {t : Task}
    (inside : id < m.core.size) (isLocal : t.Local) (still : t.seeks = false) :
    Attended (m.setTask id t) := by
  have core := core_setTask m inside t
  have seeks (j : Nat) : ((m.setTask id t).core.task j).seeks = (m.core.task j).seeks := by
    rw [core]
    by_cases here : j = id
    · rw [here, Core.set_task_self, still, idle]
    · rw [Core.set_task_of_ne _ _ here]
  have size : (m.setTask id t).core.size = m.core.size := by rw [core, Core.set_size]
  refine ⟨attended.there, ?_, ?_, attended.line, attended.once, ?_, ?_, ?_, ?_, attended.shut⟩
  · intro j
    rw [core]
    by_cases here : j = id
    · rw [here, Core.set_task_self]
      exact isLocal
    · rw [Core.set_task_of_ne _ _ here]
      exact attended.locals j
  · rw [size]
    exact attended.inside
  · intro j
    rw [seeks j]
    exact attended.parked j
  · intro j
    rw [seeks j]
    exact attended.found j
  · intro a set
    rw [seeks, size]
    exact attended.alarms a set
  · simp only [seekers, seeks]
    exact attended.enough

/-! ## A task runs -/

theorem seekers_called (ready : id ∈ m.ready) :
    m.seekers = (m.called id).seekers + if (m.core.task id).seeks then 1 else 0 := by
  have apart := (List.perm_cons_erase ready).countP_eq fun j => (m.core.task j).seeks
  rw [List.countP_cons] at apart
  exact apart

/-- A task that does not seek a key may leave the line. -/
theorem Attended.called (attended : Attended m) (ready : id ∈ m.ready)
    (idle : (m.core.task id).seeks = false) : Attended (m.called id) := by
  have stays {j : Nat} (ready : j ∈ m.ready.erase id) : j ∈ m.ready := List.mem_of_mem_erase ready
  refine ⟨attended.there, attended.locals, fun j ready => attended.inside j (stays ready),
    attended.line.erase id, attended.once, ?_, ?_, attended.alarms, ?_, attended.shut⟩
  · exact fun j waits => ⟨(attended.parked j waits).1, fun ready =>
      (attended.parked j waits).2 (stays ready)⟩
  · intro j seeks
    apply (attended.found j seeks).imp_right
    intro ready
    refine (List.mem_erase_of_ne ?_).mpr ready
    rintro rfl
    exact absurd (seeks.symm.trans idle) (by decide)
  · have same := seekers_called ready
    rw [idle] at same
    exact attended.enough.imp_right fun few => Nat.le_trans few (Nat.le_of_eq same)

theorem Attended.runs_later (attended : Attended m) (ready : id ∈ m.ready) {q : Nat} {k : Key}
    {delay : Time.Span} {due : Option Nat} (waits : m.core.task id = .later q k delay due) :
    Attended ((m.called id).turn id .quiet) := by
  have idle : (m.core.task id).seeks = false := by rw [waits]; rfl
  have inside : id < m.core.size := m.inside_of_task waits (by simp)
  obtain rfl : q = 0 := by
    have isLocal := attended.locals id
    rw [waits] at isLocal
    cases isLocal
    rfl
  have left := attended.called ready idle
  have task : (m.called id).tasks.getD id .finished = .later 0 k delay due := waits
  cases due with
  | none =>
    simp only [turn, step, task, after]
    generalize (m.called id).dueAfter delay = due
    have delayed : ((m.called id).setTask id (.later 0 k delay (some due))).core =
        (m.called id).core.set id (.later 0 k delay (some due)) := core_setTask _ inside _
    refine (left.setTask idle inside (.later k delay (some due)) rfl).setAlarm due ?_ ?_
    · rwa [delayed, Core.set_size]
    · rw [delayed, Core.set_task_self]
      rfl
  | some due =>
    simp only [turn, step, task]
    split
    · exact (left.enqueue k).setTask idle inside .finished rfl
    · exact left.setTask idle inside (.later k delay (some due)) rfl

/-- Who is called stands in line no more. -/
theorem Attended.mem_called (attended : Attended m) {j : Nat} :
    j ∈ (m.called id).ready ↔ j ≠ id ∧ j ∈ m.ready :=
  attended.line.mem_erase_iff

/-- The machine after a task was called and was handed something by the queue. -/
def handing (m : Machine) (id : Nat) (d : Dispenser Nat) (h : Handout) : Machine :=
  ((m.called id).setQueue 0 (d, [])).setTask id (.got h)

section

variable (d : Dispenser Nat) (h : Handout)

theorem queue_handing (there : 0 < m.queues.length) (id : Nat) : (m.handing id d h).queue 0 = d :=
  queue_setQueue (m := m.called id) there d []

theorem core_handing (inside : id < m.core.size) :
    (m.handing id d h).core = ((m.called id).setQueue 0 (d, [])).core.set id (.got h) :=
  core_setTask ((m.called id).setQueue 0 (d, [])) inside _

theorem size_handing (inside : id < m.core.size) : (m.handing id d h).core.size = m.core.size := by
  rw [core_handing d h inside, Core.set_size]
  rfl

theorem task_handing_self (inside : id < m.core.size) :
    (m.handing id d h).core.task id = .got h := by
  rw [core_handing d h inside, Core.set_task_self]

theorem task_handing_of_ne (inside : id < m.core.size) {j : Nat} (other : j ≠ id) :
    (m.handing id d h).core.task j = m.core.task j := by
  rw [core_handing d h inside, Core.set_task_of_ne _ _ other]
  rfl

end

/-- A task that sought a key was handed one, or heard of the end. -/
theorem Attended.handed (attended : Attended m) (ready : id ∈ m.ready)
    (seeks : (m.core.task id).seeks = true) {d : Dispenser Nat} (h : Handout)
    (parked : d.parked = (m.queue 0).parked)
    (fewer : d.parked = [] ∨ d.queue.waiting.length < (m.queue 0).queue.waiting.length)
    (closed : d.queue.closed = (m.queue 0).queue.closed) : Attended (m.handing id d h) := by
  have inside := attended.inside id ready
  have now := queue_handing d h attended.there id
  have self := task_handing_self d h inside
  have others {j : Nat} (other : j ≠ id) := task_handing_of_ne d h inside other
  have size := size_handing d h inside
  have resting {j : Nat} (waits : j ∈ (m.queue 0).parked) : j ≠ id := by
    rintro rfl
    exact (attended.parked j waits).2 ready
  refine ⟨?_, ?_, ?_, attended.line.erase id, ?_, ?_, ?_, ?_, ?_, ?_⟩
  · simpa [handing, Machine.setTask, Machine.setQueue, Machine.wake, Machine.called] using
      attended.there
  · intro j
    by_cases here : j = id
    · rw [here, self]
      exact .got h
    · rw [others here]
      exact attended.locals j
  · intro j called
    rw [size]
    exact attended.inside j (attended.mem_called.mp called).2
  · rw [now, parked]
    exact attended.once
  · rw [now, parked]
    intro j waits
    rw [others (resting waits)]
    refine ⟨(attended.parked j waits).1, ?_⟩
    intro called
    exact (attended.parked j waits).2 (attended.mem_called.mp called).2
  · rw [now, parked]
    intro j seeks'
    by_cases here : j = id
    · rw [here, self] at seeks'
      contradiction
    · rw [others here] at seeks'
      exact (attended.found j seeks').imp_right fun early => attended.mem_called.mpr ⟨here, early⟩
  · intro a set
    have before := attended.alarms a set
    have other : a.task ≠ id := by
      intro same
      rw [same, seeks] at before
      exact absurd before.2 (by decide)
    rw [others other, size]
    exact before
  · rw [now]
    rcases fewer with nobody | fewer
    · exact .inl nobody
    · rw [parked]
      apply attended.enough.imp_right
      intro few
      have before := seekers_called ready
      rw [if_pos seeks] at before
      have same : (m.handing id d h).seekers = (m.called id).seekers := by
        refine List.countP_congr fun j called => ?_
        rw [others (attended.mem_called.mp called).1]
        rfl
      omega
  · rw [now, parked, closed]
    exact attended.shut

/-- A task that found no key waits behind all others. -/
theorem Attended.parks (attended : Attended m) (ready : id ∈ m.ready)
    (seeks : (m.core.task id).seeks = true) (nothing : (m.queue 0).queue.waiting = [])
    (opened : (m.queue 0).queue.closed = false) :
    Attended ((m.called id).setQueue 0
      (⟨(m.queue 0).queue, false, (m.queue 0).parked ++ [id]⟩, [])) := by
  have now := queue_setQueue (m := m.called id) attended.there
    ⟨(m.queue 0).queue, false, (m.queue 0).parked ++ [id]⟩ []
  have fresh : id ∉ (m.queue 0).parked := fun waits => (attended.parked id waits).2 ready
  refine ⟨?_, attended.locals, ?_, attended.line.erase id, ?_, ?_, ?_, attended.alarms, .inr ?_, ?_⟩
  · simpa [Machine.setQueue, Machine.wake, Machine.called] using attended.there
  · exact fun j called => attended.inside j (attended.mem_called.mp called).2
  · rw [now]
    exact nodup_snoc attended.once fresh
  · rw [now]
    apply forall_mem_snoc
    · intro j waits
      refine ⟨(attended.parked j waits).1, ?_⟩
      intro called
      exact (attended.parked j waits).2 (attended.mem_called.mp called).2
    · exact ⟨seeks, fun called => (attended.mem_called.mp called).1 rfl⟩
  · rw [now]
    intro j seeks'
    by_cases here : j = id
    · exact .inl (List.mem_append_right _ (List.mem_singleton.mpr here))
    · rcases attended.found j seeks' with waits | early
      · exact .inl (List.mem_append_left _ waits)
      · exact .inr (attended.mem_called.mpr ⟨here, early⟩)
  · rw [now, nothing]
    exact Nat.zero_le _
  · rw [now, opened]
    intro shut
    contradiction

theorem Attended.runs_getter (attended : Attended m) (ready : id ∈ m.ready)
    (waits : m.core.task id = .getter 0) : Attended ((m.called id).turn id .quiet) := by
  have seeks : (m.core.task id).seeks = true := by rw [waits]; rfl
  have task : (m.called id).tasks.getD id .finished = .getter 0 := waits
  have queue : (m.called id).queue 0 = m.queue 0 := rfl
  simp only [turn, step, task, queue, Dispenser.take]
  rcases tryTake_cases (m.queue 0) with ⟨k, rest, first, took⟩ | ⟨none, opened, nothing⟩ |
    ⟨shut, closed⟩
  · rw [took]
    refine attended.handed ready seeks (.key k) rfl (.inr ?_) rfl
    simp [Queue.taken, first]
  · rw [nothing]
    exact attended.parks ready seeks none opened
  · rw [closed]
    exact attended.handed ready seeks .closed rfl (.inl (attended.shut shut)) rfl

/-- Whatever happens around the queue, its waiters stay attended. -/
theorem Attended.stirred (attended : Attended m) (s : Stir) : Attended (m.stirred s) := by
  cases s with
  | waits => exact attended.spawn .getter
  | tries => exact attended.tries
  | adds k => exact attended.enqueue k
  | delays k delay =>
    simp only [Machine.stirred, enqueueAfter]
    split
    · exact attended.enqueue k
    · exact attended.spawn (.later k delay none)
  | gives k => exact attended.giveBack k
  | closes => exact attended.close
  | passes now => exact attended.pass now
  | runs id =>
    simp only [Machine.stirred]
    split
    · next ready =>
      have isLocal := attended.locals id
      generalize there : m.core.task id = t at isLocal
      cases isLocal with
      | getter => exact attended.runs_getter ready there
      | later k delay due => exact attended.runs_later ready there
      | got h =>
        have task : (m.called id).tasks.getD id .finished = .got h := there
        simp only [turn, step, task, after]
        exact attended.called ready (by rw [there]; rfl)
      | finished =>
        have task : (m.called id).tasks.getD id .finished = .finished := there
        simp only [turn, step, task, after]
        exact attended.called ready (by rw [there]; rfl)
    · exact attended

theorem attended_start (c : Cluster) : Attended (start c) := by
  have nothing (id : Nat) : (start c).core.task id = .finished := rfl
  refine ⟨Nat.one_pos, ?_, ?_, List.nodup_nil, List.nodup_nil, ?_, ?_, ?_, .inl rfl, fun _ => rfl⟩
  · intro id
    rw [nothing]
    exact .finished
  · intro id ready
    simp [start] at ready
  · intro id waits
    simp [start, Machine.queue, Dispenser.empty] at waits
  · intro id seeks
    rw [nothing] at seeks
    contradiction
  · intro a set
    simp [start] at set

/-- The machine of a cluster and one queue, after all that happened around the queue. -/
def bustle (c : Cluster) (stirs : List Stir) : Machine := stirs.foldl stirred (start c)

theorem Attended.bustle (c : Cluster) (stirs : List Stir) : Attended (bustle c stirs) := by
  have all (m : Machine) (attended : Attended m) : Attended (stirs.foldl Machine.stirred m) := by
    induction stirs generalizing m with
    | nil => exact attended
    | cons s stirs ih => exact ih _ (attended.stirred s)
  exact all _ (attended_start c)

/-- Once all who were woken have run, nobody waits beside a key, and nobody waits after the end. -/
theorem waits_for_nothing (c : Cluster) (stirs : List Stir) (quiet : (bustle c stirs).ready = [])
    {id : Nat} (waits : (bustle c stirs).tasks.getD id .finished = .getter 0) :
    ((bustle c stirs).queue 0).queue.waiting = [] ∧
      ((bustle c stirs).queue 0).queue.closed = false := by
  have attended := Attended.bustle c stirs
  have parked : id ∈ ((bustle c stirs).queue 0).parked := by
    rcases attended.found id (by simp only [core, waits, Task.seeks]) with parked | ready
    · exact parked
    · rw [quiet] at ready
      contradiction
  have somebody : ((bustle c stirs).queue 0).parked ≠ [] := List.ne_nil_of_mem parked
  constructor
  · have few := attended.enough.resolve_left somebody
    rw [seekers, quiet] at few
    exact List.eq_nil_of_length_eq_zero (Nat.le_zero.mp few)
  · cases shut : ((bustle c stirs).queue 0).queue.closed with
    | false => rfl
    | true => exact absurd (attended.shut shut) somebody

/-- Two wait and are woken, a third takes one of the two keys, and one of the first waits again. -/
def fasterThird : List Stir :=
  [.waits, .waits, .runs 0, .runs 1, .adds ⟨"dev", "git"⟩, .adds ⟨"dev", "hub"⟩, .tries, .runs 1, .runs 0]

theorem waits_for_nothing_fasterThird :
    (bustle (.empty (.serial 0)) fasterThird).ready = [] ∧
      (bustle (.empty (.serial 0)) fasterThird).tasks.getD 0 .finished = .getter 0 ∧
      ((bustle (.empty (.serial 0)) fasterThird).queue 0).queue.waiting = [] ∧
      ((bustle (.empty (.serial 0)) fasterThird).queue 0).queue.closed = false := by
  have quiet : (bustle (.empty (.serial 0)) fasterThird).ready = [] := by decide +kernel
  have waits : (bustle (.empty (.serial 0)) fasterThird).tasks.getD 0 .finished = .getter 0 := by rfl
  exact ⟨quiet, waits, waits_for_nothing (.empty (.serial 0)) fasterThird quiet waits⟩

end Machine

end TokenSteward.Controller
