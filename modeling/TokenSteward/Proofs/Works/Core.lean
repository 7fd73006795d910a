import TokenSteward.Controller.Machine
import TokenSteward.Proofs.Queue.Flight

/-! # What tasks work on

Of a machine, its core is what decides on the work that is still to come: the cluster, the tasks and
the queues. Who is ready, who waits for what, and what was noted is left out, so most of what a
machine does to itself leaves its core alone.
-/

namespace TokenSteward

/-- A queue after some keys were added. -/
def Queue.addAll (q : Queue) (keys : List Resource.Key) : Queue :=
  keys.foldl (fun q k => (q.add k).1) q

namespace Queue

open TokenSteward.Resource

variable {q : Queue}

theorem addAll_cons (q : Queue) (k : Key) (keys : List Key) :
    q.addAll (k :: keys) = (q.add k).1.addAll keys :=
  rfl

theorem closed_addAll (keys : List Key) : (q.addAll keys).closed = q.closed := by
  induction keys generalizing q with
  | nil => rfl
  | cons k keys ih => rw [addAll_cons, ih, closed_add]

theorem processing_addAll (keys : List Key) : (q.addAll keys).processing = q.processing := by
  induction keys generalizing q with
  | nil => rfl
  | cons k keys ih => rw [addAll_cons, ih, processing_add]

theorem marked_addAll (opened : q.closed = false) (keys : List Key) (j : Key) :
    (q.addAll keys).marked.contains j = (decide (j ∈ keys) || q.marked.contains j) := by
  induction keys generalizing q with
  | nil => simp [addAll]
  | cons k keys ih =>
    rw [addAll_cons, ih ((closed_add k).trans opened), marked_add opened, Bool.eq_iff_iff]
    simp only [Bool.or_eq_true, decide_eq_true_eq, List.mem_cons]
    exact or_left_comm.trans or_assoc.symm

theorem Sound.addAll (sound : q.Sound) (keys : List Key) : (q.addAll keys).Sound := by
  induction keys generalizing q with
  | nil => exact sound
  | cons k keys ih => exact ih (sound.add k)

end Queue

namespace Controller

open TokenSteward.Cluster TokenSteward.Resource TokenSteward.Queue

/-- The cluster, the tasks by their numbers, how many there are, the queues by theirs, and how many
of these there are. -/
structure Core where
  cluster : Cluster
  task : Nat → Task
  size : Nat
  queue : Nat → Queue
  width : Nat

namespace Core

/-- The core with a task changed. -/
def set (g : Core) (id : Nat) (t : Task) : Core :=
  { g with task := fun j => if j = id then t else g.task j }

/-- The core with a new task. -/
def push (g : Core) (t : Task) : Core :=
  { g with task := fun j => if j = g.size then t else g.task j, size := g.size + 1 }

/-- The core with some new tasks. -/
def pushAll (g : Core) (all : List Task) : Core := all.foldl push g

/-- The core with a queue changed, if there is one with the number. -/
def file (g : Core) (q : Nat) (d : Queue) : Core :=
  { g with queue := fun j => if j = q ∧ q < g.width then d else g.queue j }

/-- The core over another cluster. -/
def withCluster (g : Core) (c : Cluster) : Core := { g with cluster := c }

/-- Beyond the last task there is none. -/
def Fits (g : Core) : Prop := ∀ id, g.size ≤ id → g.task id = .finished

variable (g : Core) (id q : Nat) (t : Task) (d : Queue) (c : Cluster)

@[simp] theorem set_cluster : (g.set id t).cluster = g.cluster := rfl
@[simp] theorem set_size : (g.set id t).size = g.size := rfl
@[simp] theorem set_queue : (g.set id t).queue = g.queue := rfl
@[simp] theorem set_width : (g.set id t).width = g.width := rfl
@[simp] theorem set_task_self : (g.set id t).task id = t := if_pos rfl

@[simp] theorem set_task_of_ne {id j : Nat} (other : j ≠ id) : (g.set id t).task j = g.task j :=
  if_neg other

@[simp] theorem push_cluster : (g.push t).cluster = g.cluster := rfl
@[simp] theorem push_size : (g.push t).size = g.size + 1 := rfl
@[simp] theorem push_queue : (g.push t).queue = g.queue := rfl
@[simp] theorem push_width : (g.push t).width = g.width := rfl
@[simp] theorem push_task_self : (g.push t).task g.size = t := if_pos rfl

@[simp] theorem push_task_of_ne {j : Nat} (other : j ≠ g.size) : (g.push t).task j = g.task j :=
  if_neg other

@[simp] theorem file_cluster : (g.file q d).cluster = g.cluster := rfl
@[simp] theorem file_size : (g.file q d).size = g.size := rfl
@[simp] theorem file_task : (g.file q d).task = g.task := rfl
@[simp] theorem file_width : (g.file q d).width = g.width := rfl

@[simp] theorem file_queue_self {q : Nat} (there : q < g.width) : (g.file q d).queue q = d :=
  if_pos ⟨rfl, there⟩

@[simp] theorem file_queue_of_ne {q j : Nat} (other : j ≠ q) : (g.file q d).queue j = g.queue j :=
  if_neg fun same => other same.1

theorem file_of_le {q : Nat} (beyond : g.width ≤ q) : g.file q d = g := by
  unfold file
  congr 1
  funext j
  exact if_neg fun inside => by omega

@[simp] theorem withCluster_cluster : (g.withCluster c).cluster = c := rfl
@[simp] theorem withCluster_size : (g.withCluster c).size = g.size := rfl
@[simp] theorem withCluster_task : (g.withCluster c).task = g.task := rfl
@[simp] theorem withCluster_queue : (g.withCluster c).queue = g.queue := rfl
@[simp] theorem withCluster_width : (g.withCluster c).width = g.width := rfl

theorem set_same : g.set id (g.task id) = g := by
  unfold set
  congr 1
  funext j
  split
  · next here => rw [here]
  · rfl

theorem file_same : g.file q (g.queue q) = g := by
  unfold file
  congr 1
  funext j
  split
  · next here => rw [here.1]
  · rfl

theorem file_file (e : Queue) : (g.file q d).file q e = g.file q e := by
  simp only [file]
  congr 1
  funext j
  split <;> rfl

variable {g}

theorem lt_size (fits : g.Fits) {id : Nat} (there : g.task id ≠ .finished) : id < g.size := by
  by_cases inside : id < g.size
  · exact inside
  · exact absurd (fits id (by omega)) there

theorem Fits.set (fits : g.Fits) {id : Nat} (inside : id < g.size) (t : Task) :
    (g.set id t).Fits := by
  intro j beyond
  rw [set_size] at beyond
  rw [set_task_of_ne g t (by omega)]
  exact fits j beyond

theorem Fits.push (fits : g.Fits) (t : Task) : (g.push t).Fits := by
  intro j beyond
  rw [push_size] at beyond
  rw [push_task_of_ne g t (by omega)]
  exact fits j (by omega)

theorem pushAll_cons (g : Core) (t : Task) (all : List Task) :
    g.pushAll (t :: all) = (g.push t).pushAll all :=
  rfl

theorem pushAll_append (g : Core) (first second : List Task) :
    g.pushAll (first ++ second) = (g.pushAll first).pushAll second := by
  simp only [pushAll, List.foldl_append]

@[simp] theorem pushAll_cluster (g : Core) (all : List Task) :
    (g.pushAll all).cluster = g.cluster := by
  induction all generalizing g with
  | nil => rfl
  | cons t all ih => rw [pushAll_cons, ih, push_cluster]

@[simp] theorem pushAll_width (g : Core) (all : List Task) : (g.pushAll all).width = g.width := by
  induction all generalizing g with
  | nil => rfl
  | cons t all ih => rw [pushAll_cons, ih, push_width]

@[simp] theorem pushAll_queue (g : Core) (all : List Task) : (g.pushAll all).queue = g.queue := by
  induction all generalizing g with
  | nil => rfl
  | cons t all ih => rw [pushAll_cons, ih, push_queue]

theorem le_size_pushAll (g : Core) (all : List Task) : g.size ≤ (g.pushAll all).size := by
  induction all generalizing g with
  | nil => exact Nat.le_refl _
  | cons t all ih =>
    have := ih (g.push t)
    rw [pushAll_cons]
    rw [push_size] at this
    omega

theorem Fits.pushAll (fits : g.Fits) (all : List Task) : (g.pushAll all).Fits := by
  induction all generalizing g with
  | nil => exact fits
  | cons t all ih => exact ih (fits.push t)

/-- The old tasks stay. -/
theorem pushAll_task_of_lt (all : List Task) {id : Nat} (old : id < g.size) :
    (g.pushAll all).task id = g.task id := by
  induction all generalizing g with
  | nil => rfl
  | cons t all ih =>
    rw [pushAll_cons, ih (by rw [push_size]; omega), push_task_of_ne g t (by omega)]

/-- Every new task is there. -/
theorem exists_pushAll_task {all : List Task} {t : Task} (new : t ∈ all) :
    ∃ id, g.size ≤ id ∧ (g.pushAll all).task id = t := by
  induction all generalizing g with
  | nil => simp at new
  | cons u all ih =>
    rw [pushAll_cons]
    rcases List.mem_cons.mp new with rfl | later
    · refine ⟨g.size, Nat.le_refl _, ?_⟩
      rw [pushAll_task_of_lt all (by rw [push_size]; omega), push_task_self]
    · obtain ⟨id, beyond, here⟩ := ih later (g := g.push u)
      rw [push_size] at beyond
      exact ⟨id, by omega, here⟩

/-- A task is old or new. -/
theorem pushAll_task_cases (fits : g.Fits) (all : List Task) (id : Nat) :
    (id < g.size ∧ (g.pushAll all).task id = g.task id) ∨
      (g.size ≤ id ∧ ((g.pushAll all).task id ∈ all ∨ (g.pushAll all).task id = .finished)) := by
  induction all generalizing g with
  | nil =>
    by_cases old : id < g.size
    · exact .inl ⟨old, rfl⟩
    · exact .inr ⟨by omega, .inr (fits id (by omega))⟩
  | cons t all ih =>
    rw [pushAll_cons]
    rcases ih (fits.push t) with ⟨old, same⟩ | ⟨beyond, new⟩
    · rw [push_size] at old
      by_cases last : id = g.size
      · subst last
        rw [same, push_task_self]
        exact .inr ⟨Nat.le_refl _, .inl List.mem_cons_self⟩
      · rw [same, push_task_of_ne g t last]
        exact .inl ⟨by omega, rfl⟩
    · rw [push_size] at beyond
      exact .inr ⟨by omega, new.imp_left (List.mem_cons_of_mem t)⟩

end Core

/-! ## The core of a machine -/

/-- The core of a machine. -/
def Machine.core (m : Machine) : Core :=
  ⟨m.cluster, fun id => m.tasks.getD id .finished, m.tasks.size, fun q => (m.queue q).queue,
    m.queues.length⟩

namespace Machine

variable (m : Machine)

theorem fits_core : m.core.Fits := by
  intro id beyond
  have outside : ¬ id < m.tasks.size := Nat.not_lt.mpr beyond
  simp [core, Array.getD, outside]

/-- A task that has not ended is one of the machine's. -/
theorem inside_of_task {id : Nat} {t : Task} (here : m.core.task id = t) (other : t ≠ .finished) :
    id < m.core.size :=
  Core.lt_size m.fits_core (here ▸ other)

@[simp] theorem core_wake (all : List Nat) : (m.wake all).core = m.core := rfl
@[simp] theorem core_note (n : Note) : (m.note n).core = m.core := rfl
@[simp] theorem core_dropAlarms (id : Nat) : (m.dropAlarms id).core = m.core := rfl
@[simp] theorem core_setController (i : Nat) (c : Controller) :
    (m.setController i c).core = m.core := rfl
@[simp] theorem core_pass (now : Nat) : (m.pass now).core = m.core := rfl
@[simp] theorem core_withCluster (c : Cluster) : (m.withCluster c).core = m.core.withCluster c := rfl

@[simp] theorem core_setAlarm (due task : Nat) : (m.setAlarm due task).core = m.core := by
  unfold setAlarm
  split <;> rfl

theorem core_setTask {id : Nat} (inside : id < m.core.size) (t : Task) :
    (m.setTask id t).core = m.core.set id t := by
  have inside : id < m.tasks.size := inside
  simp only [core, setTask, Core.set, Array.size_setIfInBounds]
  congr 1
  funext j
  rw [Array.getD_eq_getD_getElem?, Array.getElem?_setIfInBounds]
  by_cases here : j = id
  · subst here
    simp [inside]
  · simp [here, Ne.symm here]

theorem task_setTask {id : Nat} (inside : id < m.core.size) (t : Task) : (m.setTask id t).core.task id = t := by
  rw [core_setTask m inside, Core.set_task_self]

theorem core_spawn (t : Task) : (m.spawn t).core = m.core.push t := by
  simp only [core, spawn, Core.push, Array.size_push]
  congr 1
  funext j
  by_cases here : j = m.tasks.size
  · subst here
    simp [Array.getD]
  · by_cases old : j < m.tasks.size
    · simp [Array.getD, here, old, Array.getElem_push_lt old, Nat.lt_succ_of_lt old]
    · have beyond : ¬ j < m.tasks.size + 1 := by omega
      simp [Array.getD, here, old, beyond]

theorem core_spawnAll (all : List Task) : (m.spawnAll all).core = m.core.pushAll all := by
  induction all generalizing m with
  | nil => rfl
  | cons t all ih =>
    have := ih (m.spawn t)
    rw [core_spawn] at this
    exact this

theorem core_setQueue (q : Nat) (change : Dispenser Nat × List Nat) :
    (m.setQueue q change).core = m.core.file q change.1.queue := by
  simp only [setQueue, core_wake]
  simp only [core, Core.file, queue, List.length_set]
  congr 1
  funext j
  by_cases here : j = q
  · subst here
    by_cases there : j < m.queues.length
    · simp [List.getD, there]
    · simp [List.getD, there]
  · simp [List.getD, here, List.getElem?_set_ne (Ne.symm here)]

theorem queue_changed {ι : Type} (d : Dispenser ι) (change : Queue × Bool) :
    (d.changed change).1.queue = change.1 := by
  unfold Dispenser.changed
  dsimp only
  split
  · unfold Dispenser.notify
    split <;> rfl
  · rfl

theorem core_enqueue (q : Nat) (k : Key) :
    (m.enqueue q k).core = m.core.file q ((m.core.queue q).add k).1 := by
  rw [enqueue, core_setQueue, Dispenser.add, queue_changed]
  rfl

theorem core_giveBack (q : Nat) (k : Key) :
    (m.giveBack q k).core = m.core.file q ((m.core.queue q).done k).1 := by
  rw [giveBack, core_setQueue, Dispenser.done, queue_changed]
  rfl

theorem core_enqueueAll (q : Nat) (keys : List Key) :
    (m.enqueueAll q keys).core = m.core.file q ((m.core.queue q).addAll keys) := by
  induction keys generalizing m with
  | nil => exact (m.core.file_same q).symm
  | cons k keys ih =>
    have rest := ih (m.enqueue q k)
    rw [core_enqueue] at rest
    by_cases there : q < m.core.width
    · rw [Core.file_queue_self _ _ there, Core.file_file] at rest
      exact rest
    · have beyond : m.core.width ≤ q := by omega
      rw [Core.file_of_le _ _ beyond, Core.file_of_le _ _ beyond] at rest
      rw [Core.file_of_le _ _ beyond]
      exact rest

end Machine

end Controller

end TokenSteward
