import TokenSteward.Proofs.Queue.Waiters
import TokenSteward.Proofs.Workers.Entries

/-! # What turns leave

A turn of a task leaves the controllers and their queues where they are, lets nobody else wait for a key,
and forgets nobody who adds a key later: who is new is ready, who knows the instant has an alarm set for
it, and once the instant has come they are ready.
-/

namespace TokenSteward.Controller

open TokenSteward.Cluster TokenSteward.Resource TokenSteward.Time

/-- Whether a task neither waits for a key for someone outside nor adds one later. -/
def Task.isPlain : Task → Bool
  | .getter _ | .later _ _ _ _ => false
  | _ => true

namespace Machine

variable {d : Controller} {m n n' : Machine} {id : Nat}

/-- What a turn of a task leaves of a machine: the queues and the other tasks are there, nobody else
begins to wait for a key, no alarm is lost but those of the task at turn, and who adds a key later did so
before or is ready for its first turn. -/
structure Keeps (id : Nat) (m n : Machine) : Prop where
  width : n.core.width = m.core.width
  size : m.core.size ≤ n.core.size
  others : ∀ j < m.core.size, j ≠ id → n.core.task j = m.core.task j
  getter : ∀ j q, n.core.task j = .getter q → m.core.task j = .getter q
  now : n.now = m.now
  ready : ∀ j ∈ m.ready, j ∈ n.ready
  alarms : ∀ a ∈ m.alarms, a.task ≠ id → a ∈ n.alarms
  ahead : ∀ a ∈ n.alarms, a ∈ m.alarms ∨ m.now < a.due
  later : ∀ j q k delay due, n.core.task j = .later q k delay due →
    m.core.task j = .later q k delay due ∨ due = none ∧ delay.isZero = false ∧ j ∈ n.ready

/-! ## What single changes leave -/

theorem Keeps.refl (id : Nat) (m : Machine) : Keeps id m m :=
  ⟨rfl, Nat.le_refl _, fun _ _ _ => rfl, fun _ _ here => here, rfl, fun _ here => here,
    fun _ there _ => there, fun _ => .inl, fun _ _ _ _ _ => .inl⟩

/-- Nothing is lost if only more tasks are ready. -/
theorem Keeps.of_more (keeps : Keeps id m n) (width : n'.core.width = n.core.width)
    (size : n'.core.size = n.core.size) (task : n'.core.task = n.core.task) (now : n'.now = n.now)
    (ready : ∀ j ∈ n.ready, j ∈ n'.ready) (alarms : n'.alarms = n.alarms) : Keeps id m n' := by
  refine ⟨width.trans keeps.width, size ▸ keeps.size, task ▸ keeps.others, task ▸ keeps.getter,
    now.trans keeps.now,
    fun j there => ready j (keeps.ready j there), alarms ▸ keeps.alarms, alarms ▸ keeps.ahead,
    fun j q k delay due here => ?_⟩
  rw [task] at here
  exact (keeps.later j q k delay due here).imp_right fun new => ⟨new.1, new.2.1, ready j new.2.2⟩

theorem Keeps.note (keeps : Keeps id m n) (e : Note) : Keeps id m (n.note e) :=
  keeps.of_more rfl rfl rfl rfl (fun _ there => there) rfl

theorem Keeps.setController (keeps : Keeps id m n) (j : Nat) (d : Controller) :
    Keeps id m (n.setController j d) :=
  keeps.of_more rfl rfl rfl rfl (fun _ there => there) rfl

theorem Keeps.listens (keeps : Keeps id m n) (listening : List (Source × Nat)) :
    Keeps id m { n with listening := listening } :=
  keeps.of_more rfl rfl rfl rfl (fun _ there => there) rfl

theorem Keeps.withCluster (keeps : Keeps id m n) (c : Cluster) : Keeps id m (n.withCluster c) :=
  keeps.of_more rfl rfl rfl rfl (fun _ there => mem_ready_wake.mpr (.inl there)) rfl

theorem Keeps.setQueue (keeps : Keeps id m n) (q : Nat) (change : Queue.Dispenser Nat × List Nat) :
    Keeps id m (n.setQueue q change) := by
  have core := core_setQueue n q change
  exact keeps.of_more (by rw [core, Core.file_width]) (by rw [core, Core.file_size])
    (by rw [core, Core.file_task]) rfl (fun _ there => mem_ready_wake.mpr (.inl there)) rfl

theorem Keeps.enqueueAll (keeps : Keeps id m n) (q : Nat) (keys : List Key) :
    Keeps id m (n.enqueueAll q keys) := by
  induction keys generalizing n with
  | nil => exact keeps
  | cons k keys ih => exact ih (keeps.setQueue q _)

theorem Keeps.dropAlarms (keeps : Keeps id m n) : Keeps id m (n.dropAlarms id) := by
  refine ⟨keeps.width, keeps.size, keeps.others, keeps.getter, keeps.now, keeps.ready,
    fun a there other => ?_, fun a there => keeps.ahead a (List.mem_of_mem_filter there), keeps.later⟩
  exact List.mem_filter.mpr ⟨keeps.alarms a there other, by simpa using other⟩

theorem Keeps.setAlarm (keeps : Keeps id m n) (due task : Nat) : Keeps id m (n.setAlarm due task) := by
  unfold Machine.setAlarm
  split
  · exact keeps
  · next ahead =>
    refine ⟨keeps.width, keeps.size, keeps.others, keeps.getter, keeps.now, keeps.ready,
      fun a there other => List.mem_append_left _ (keeps.alarms a there other), fun a there => ?_,
      keeps.later⟩
    rcases List.mem_append.mp there with old | new
    · exact keeps.ahead a old
    · rw [List.mem_singleton.mp new, ← keeps.now]
      exact .inr (Nat.not_le.mp ahead)

theorem Keeps.setTask (keeps : Keeps id m n) {t : Task} (plain : t.isPlain = true) :
    Keeps id m (n.setTask id t) := by
  by_cases inside : id < n.core.size
  · have core := core_setTask n inside t
    have cases {l : Nat} {u : Task} (here : (n.setTask id t).core.task l = u) : u = t ∨ n.core.task l = u := by
      rw [core] at here
      by_cases same : l = id
      · rw [same, Core.set_task_self] at here
        exact .inl here.symm
      · rw [Core.set_task_of_ne _ _ same] at here
        exact .inr here
    refine ⟨by rw [core]; exact keeps.width, by rw [core]; exact keeps.size, fun l old other => ?_,
      fun l q here => ?_, keeps.now, keeps.ready, keeps.alarms, keeps.ahead,
      fun l q k delay due here => ?_⟩
    · rw [core, Core.set_task_of_ne _ _ other]
      exact keeps.others l old other
    · rcases cases here with rfl | before
      · cases plain
      · exact keeps.getter l q before
    · rcases cases here with rfl | before
      · cases plain
      · exact keeps.later l q k delay due before
  · have same : n.setTask id t = n := by
      simp only [Machine.setTask, Array.setIfInBounds, dif_neg (show ¬ id < n.tasks.size from inside)]
    rw [same]
    exact keeps

/-- A new task is ready. -/
theorem Keeps.spawn (keeps : Keeps id m n) {t : Task}
    (new : t.isPlain = true ∨ ∃ q k delay, t = .later q k delay none ∧ delay.isZero = false) :
    Keeps id m (n.spawn t) := by
  have core := core_spawn n t
  have cases {l : Nat} {u : Task} (here : (n.spawn t).core.task l = u) :
      l = n.tasks.size ∧ u = t ∨ n.core.task l = u := by
    rw [core] at here
    by_cases same : l = n.core.size
    · rw [same, Core.push_task_self] at here
      exact .inl ⟨same, here.symm⟩
    · rw [Core.push_task_of_ne _ _ same] at here
      exact .inr here
  have more (j : Nat) (there : j ∈ n.ready) : j ∈ (n.spawn t).ready := List.mem_append_left _ there
  refine ⟨by rw [core]; exact keeps.width, ?_, fun l old other => ?_, fun l q here => ?_, keeps.now,
    fun j there => more j (keeps.ready j there), keeps.alarms, keeps.ahead,
    fun l q k delay due here => ?_⟩
  · rw [core]
    exact Nat.le_succ_of_le keeps.size
  · rw [core, Core.push_task_of_ne _ _ (Nat.ne_of_lt (Nat.lt_of_lt_of_le old keeps.size))]
    exact keeps.others l old other
  · rcases cases here with ⟨-, rfl⟩ | before
    · rcases new with plain | ⟨_, _, _, same, _⟩
      · cases plain
      · cases same
    · exact keeps.getter l q before
  · rcases cases here with ⟨last, rfl⟩ | before
    · rcases new with plain | ⟨_, _, _, same, some⟩
      · cases plain
      · cases same
        exact .inr ⟨rfl, some, last ▸ List.mem_append_right _ List.mem_cons_self⟩
    · exact (keeps.later l q k delay due before).imp_right fun new => ⟨new.1, new.2.1, more l new.2.2⟩

theorem Keeps.spawnAll (keeps : Keeps id m n) {all : List Task}
    (plain : ∀ t ∈ all, t.isPlain = true) : Keeps id m (n.spawnAll all) := by
  induction all generalizing n with
  | nil => exact keeps
  | cons t all ih =>
    rw [List.forall_mem_cons] at plain
    exact ih (keeps.spawn (.inl plain.1)) plain.2

/-! ## What turns leave -/

theorem Keeps.enqueueAfter (keeps : Keeps id m n) (q : Nat) (k : Key) (delay : Span) :
    Keeps id m (n.enqueueAfter q k delay) := by
  unfold Machine.enqueueAfter
  split
  · exact keeps.setQueue q _
  · next some => exact keeps.spawn (.inr ⟨q, k, delay, rfl, by simpa using some⟩)

theorem Keeps.finish (keeps : Keeps id m n) (i : Nat) (k : Key) (r : Except Failure Action) :
    Keeps id m (n.finish id i d k r) := by
  have settled {n : Machine} (keeps : Keeps id m n) : Keeps id m (n.settled i d k r) := by
    unfold Machine.settled
    split
    · exact keeps.setController i _
    · exact (keeps.setController i _).enqueueAfter _ _ _
    · exact keeps
    · split
      · exact (keeps.setController i _).enqueueAfter _ _ _
      · exact keeps.setController i _
  exact ((settled (keeps.note _).dropAlarms).setQueue _ _).setTask rfl

theorem Keeps.launchAll (keeps : Keeps id m n) (all : List Nat) : Keeps id m (n.launchAll all) := by
  induction all generalizing n with
  | nil => exact keeps
  | cons j all ih =>
    simp only [Machine.launchAll, List.foldl_cons] at ih ⊢
    split
    · exact ih keeps
    · refine ih (keeps.spawnAll fun t part => ?_)
      simp only [partsOf, List.mem_append, List.mem_map, List.mem_cons, List.mem_replicate] at part
      rcases part with ⟨w, -, rfl⟩ | rfl | ⟨-, rfl⟩ <;> rfl

theorem Keeps.closeAll (keeps : Keeps id m n) (all : List Nat) : Keeps id m (n.closeAll all) := by
  induction all generalizing n with
  | nil => exact keeps
  | cons j all ih =>
    simp only [Machine.closeAll, List.foldl_cons] at ih ⊢
    split
    · exact ih keeps
    · exact ih (keeps.setQueue _ _)

theorem keeps_collect (x : Chance) {i : Nat} {p : Pass (List Key)}
    {again : Option (Pass (List Key)) → Task} (plain : ∀ o, (again o).isPlain = true) :
    Keeps id m (m.after x (m.collect id i p again)) := by
  have keeps := Keeps.refl id m
  cases p with
  | done keys =>
    simp only [collect]
    split
    · exact keeps.setTask (plain _)
    · exact (keeps.setTask (plain _)).enqueueAll _ _
  | fail f => exact keeps.setTask (plain _)
  | ask r next => exact (keeps.withCluster (m.cluster.answer x r).2).setTask (plain _)

theorem keeps_workOn (x : Chance) (i : Nat) (k : Key) (p : Pass Action) (since : Nat)
    (resting : Option Nat) : Keeps id m (m.after x (m.workOn id i d k p since resting)) := by
  have keeps := Keeps.refl id m
  unfold workOn
  split
  · rw [failPass_eq]
    exact keeps.finish i k _
  · split
    · rw [succeedPass_eq]
      exact keeps.finish i k _
    · rw [failPass_eq]
      exact keeps.finish i k _
    · unfold restOn
      split
      · exact (keeps.note ⟨i, k, .resumed⟩).setTask rfl
      · split
        · rw [failPass_eq]
          exact keeps.finish i k _
        · exact keeps
    · exact ((keeps.setTask rfl).setAlarm _ _).setAlarm _ _
    · exact (keeps.setQueue _ _).setTask rfl
    · next r next _ _ _ => exact (keeps.withCluster (m.cluster.answer x r).2).setTask rfl

/-- What a turn of a task that does not add a key later leaves. -/
theorem keeps_turn (x : Chance) (other : ∀ q k delay due, m.core.task id ≠ .later q k delay due) :
    Keeps id m (m.turn id x) := by
  have keeps := Keeps.refl id m
  unfold turn step
  split
  · exact keeps
  · exact keeps
  · dsimp only
    split <;> exact (keeps.launchAll _).setTask rfl
  · split
    · exact (keeps.closeAll _).setTask rfl
    · exact keeps
  · exact keeps_collect x fun _ => rfl
  · split
    · exact keeps.setTask rfl
    · split
      · exact keeps.setTask rfl
      · exact keeps.setTask rfl
      · exact keeps.listens _
  · exact keeps_collect x fun _ => rfl
  · split
    · exact keeps.setTask rfl
    · split
      · exact keeps.dropAlarms.setTask rfl
      · split
        · exact keeps.setTask rfl
        · exact keeps.setAlarm _ _
  · next i _ =>
    split
    · exact keeps.setTask rfl
    · next c _ =>
      split
      · next k d _ =>
        have took : Keeps id m (m.withHandout i c k d) := (keeps.setQueue c.queue (d, [])).setController i _
        dsimp only
        split
        · exact took.setQueue _ _
        · exact (took.note _).setTask rfl
      · exact keeps.setQueue _ _
      · exact (keeps.setQueue _ _).setTask rfl
  · split
    · exact keeps.setTask rfl
    · exact keeps_workOn x _ _ _ _ _
  · next here => exact absurd here (other _ _ _ _)
  · next here => exact absurd here (other _ _ _ _)
  · split
    · exact keeps.setQueue _ _
    · exact (keeps.setQueue _ _).setTask rfl

end Machine

end TokenSteward.Controller
