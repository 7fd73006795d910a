import Mathlib.Data.List.Induction
import TokenSteward.Controller.Operator
import TokenSteward.Pass.Announced
import TokenSteward.Proofs.Cluster.Identities
import TokenSteward.Proofs.Works.Coming

/-! # The operator at work

The operator's machine is at work over one cluster with others around: writers of announced records, and
someone who asks for anything else. A run is a list of turns: a task is at turn, a writer begins or goes
on, the deadline of a pass comes, someone outside asks for something, time passes. Any task may be at
turn at any time, so the runs are all orders in which the tasks can come between each other, those of the
machine's own line of ready tasks among them. Each turn brings its own failures; what the providers say
depends on nothing but what they are asked.
-/

namespace TokenSteward

open TokenSteward.Cluster TokenSteward.Resource TokenSteward.Secret TokenSteward.Provider
open TokenSteward.Controller

/-! ## Deadlines -/

namespace Controller.Machine

variable {team : List Controller} {m : Machine}

/-- A deadline that comes is a step of a worker, who is in the midst of no pass then. -/
theorem late_cases (staffed : m.Staffed team) (id : Nat) (x : Chance) : m.late id = m ∨
    ((m.core.task id).bringsIn = false ∧ (m.late id).staff = m.staff ∧
      TaskStep team x id m.core (m.late id).core ∧ ((m.late id).core.task id).isBusy = false) := by
  unfold late
  split
  · next i k p since resting here =>
    have busy : m.core.task id = .worker i (.busy k p since resting) := here
    split
    · next c found =>
      obtain ⟨member, there, alike⟩ := staffed.member found
      have inside : id < m.core.size := m.inside_of_task busy (by simp)
      refine .inr ⟨busy ▸ rfl, staff_failPass k _ found, ?_, ?_⟩
      · exact taskStep_failPass x inside there alike busy (.late p)
      · rw [task_failPass inside]
        rfl
    · exact .inl rfl
  · exact .inl rfl

end Controller.Machine

/-! ## Runs -/

/-- A machine, the writers of announced records, and the tasks whose first listing has been brought
in. -/
structure Works where
  machine : Machine
  writers : List (Pass Unit)
  listed : List Nat

/-- What happens at a turn. Tasks and writers are known by their numbers; with each comes what the
store or the vault refuses. A worker is late whose deadline comes. -/
inductive Turn where
  | task (id : Nat) (refusal : Option StoreFailure) (outage : Option VaultFailure)
  | late (id : Nat)
  | writes (owner : AccessToken) (r : Record)
  | erases (owner : AccessToken)
  | writer (i : Nat) (refusal : Option StoreFailure) (outage : Option VaultFailure)
  | outside (r : Request)
  | passes (now : Nat)
  | clock (now : Int64)

namespace Works

/-- An operator over a cluster, ready to be launched. -/
def start (o : Operator) (c : Cluster) (jitter : Nat → Jitter) : Works :=
  ⟨{ (Machine.start c).installOperator o with jitter := jitter }, [], []⟩

/-- The task with a number. -/
def task (w : Works) (id : Nat) : Task := w.machine.tasks.getD id .finished

/-- The works over another cluster. -/
def withCluster (w : Works) (c : Cluster) : Works := { w with machine := w.machine.withCluster c }

/-- The works after the deadline of the pass of a worker has come. -/
def late (w : Works) (id : Nat) : Works := { w with machine := w.machine.late id }

/-- What a turn makes of the works. -/
def after (word : Word) (w : Works) : Turn → Works
  | .task id refusal outage =>
    ⟨w.machine.turn id ⟨refusal, outage, word⟩, w.writers, listedAfter w.listed id (w.task id)⟩
  | .late id => w.late id
  | .writes owner r => { w with writers := w.writers ++ [Announced.store owner r] }
  | .erases owner => { w with writers := w.writers ++ [Announced.delete owner] }
  | .writer i refusal outage =>
    match w.writers[i]? with
    | some (.ask r next) =>
      let a := w.machine.cluster.answer ⟨refusal, outage, word⟩ r
      { w.withCluster a.2 with writers := w.writers.set i (next a.1) }
    | _ => w
  | .outside r => w.withCluster (w.machine.cluster.answer .quiet r).2
  | .passes now => { w with machine := w.machine.pass now }
  | .clock now => w.withCluster { w.machine.cluster with clock := now }

/-- The works after some turns. -/
def run (word : Word) (w : Works) (turns : List Turn) : Works := turns.foldl (after word) w

theorem run_snoc (word : Word) (w : Works) (turns : List Turn) (t : Turn) :
    run word w (turns ++ [t]) = after word (run word w turns) t := by
  simp only [run, List.foldl_append, List.foldl_cons, List.foldl_nil]

/-- What holds before each turn of a run, of the works then and the turn. -/
def Along (word : Word) (holds : Works → Turn → Prop) : Works → List Turn → Prop
  | _, [] => True
  | w, t :: rest => holds w t ∧ Along word holds (w.after word t) rest

instance decidableAlong {word : Word} {holds : Works → Turn → Prop}
    [∀ w t, Decidable (holds w t)] :
    (w : Works) → (turns : List Turn) → Decidable (Along word holds w turns)
  | _, [] => .isTrue trivial
  | w, t :: rest =>
    have : Decidable (Along word holds (w.after word t) rest) := decidableAlong _ rest
    inferInstanceAs (Decidable (_ ∧ _))

theorem along_snoc {word : Word} {holds : Works → Turn → Prop} {w : Works} {turns : List Turn}
    {t : Turn} : Along word holds w (turns ++ [t]) ↔
      Along word holds w turns ∧ holds (run word w turns) t := by
  induction turns generalizing w with
  | nil => simp [Along, run]
  | cons first rest ih =>
    have later := ih (w := w.after word first)
    simp only [run] at later
    simp [Along, run, later, and_assoc]

/-- What holds at the start and is kept by every turn holds after every run. -/
theorem run_induction {word : Word} {holds : Works → Turn → Prop} {keeps : Works → Prop} {w : Works}
    (begins : keeps w)
    (kept : ∀ w t, keeps w → holds w t → keeps (w.after word t)) {turns : List Turn}
    (along : Along word holds w turns) : keeps (run word w turns) := by
  induction turns using List.reverseRecOn with
  | nil => exact begins
  | append_singleton turns t ih =>
    rw [along_snoc] at along
    rw [run_snoc]
    exact kept _ _ (ih along.1) along.2

/-- The works of a team go on: queues and stores are sound, each controller has yet to start or follows
its own objects, and the first listings are those of tasks. -/
structure Running (team : List Controller) (w : Works) : Prop where
  staffed : w.machine.Staffed team
  flight : Flight team w.machine.core
  manned : Manned team w.machine.core
  kept : w.machine.cluster.Kept
  old : ∀ id ∈ w.listed, id < w.machine.core.size
  watched : ∀ {i c}, team[i]? = some c →
    Watched c i w.machine.core (c.source.published w.machine.cluster)

variable {team : List Controller} {w : Works} {word : Word}

theorem Running.withCluster (running : Running team w) {c : Cluster} (kept : c.Kept)
    (more : ∀ s : Source, s.published w.machine.cluster ≤ s.published c) :
    Running team (w.withCluster c) :=
  ⟨running.staffed, running.flight.withCluster c, running.manned.withCluster c, kept, running.old,
    fun member => Hears.mono (running.watched member) (more _)⟩

/-- Answering a request keeps the works going. -/
theorem Running.answer (running : Running team w) (x : Chance) (r : Request) :
    Running team (w.withCluster (w.machine.cluster.answer x r).2) :=
  running.withCluster (running.kept.answer x r) fun _ => Source.published_answer_le running.kept.sound x r

/-- A step keeps the works going. -/
theorem Running.taskStep (running : Running team w) {m : Machine} {id : Nat} {x : Chance}
    (staff : m.staff = w.machine.staff) (step : TaskStep team x id w.machine.core m.core) :
    Running team ⟨m, w.writers, listedAfter w.listed id (w.task id)⟩ := by
  obtain ⟨staffed, flight, manned, kept, old, watched⟩ := running
  have cluster : m.core.cluster.Kept := by
    rcases step.cluster_cases with same | ⟨r, _, served⟩
    · rw [same]
      exact kept
    · rw [served]
      exact kept.answer x r
  refine ⟨staff.trans staffed, flight.taskStep manned step,
    manned.taskStep flight.fits step, cluster, fun j present => ?_,
    fun member => ((watched member).taskStep step flight.fits member).mono (step.published_le kept.sound _)⟩
  have before : j < w.machine.core.size := by
    change j ∈ listedAfter w.listed id (w.task id) at present
    unfold listedAfter at present
    split at present
    · next brings =>
      rcases List.mem_cons.mp present with rfl | early
      · apply Core.lt_size flight.fits
        intro none
        have none : w.task j = .finished := none
        rw [none] at brings
        contradiction
      · exact old j early
    · exact old j present
  exact Nat.lt_of_lt_of_le before step.size_le

/-- A step of a task keeps the works going. -/
theorem Running.turn (running : Running team w) (id : Nat) (x : Chance) :
    Running team ⟨w.machine.turn id x, w.writers, listedAfter w.listed id (w.task id)⟩ :=
  running.taskStep (Machine.staff_turn w.machine id x)
    (Machine.taskStep_turn running.staffed running.flight.opened id x)

/-- A deadline is a step of a worker, and brings no listing in. -/
theorem late_cases (running : Running team w) (id : Nat) (x : Chance) : w.late id = w ∨
    Running team (w.late id) ∧ listedAfter w.listed id (w.task id) = w.listed ∧
      TaskStep team x id w.machine.core (w.late id).machine.core ∧
      ((w.late id).machine.core.task id).isBusy = false := by
  rcases Machine.late_cases running.staffed id x with same | ⟨quiet, staff, step, idle⟩
  · left
    rw [Works.late, same]
  · have kept : listedAfter w.listed id (w.task id) = w.listed := by
      have quiet : (w.task id).bringsIn = false := quiet
      simp [listedAfter, quiet]
    have going := running.taskStep staff step
    rw [kept] at going
    exact .inr ⟨going, kept, step, idle⟩

/-- Every turn keeps the works going. -/
theorem Running.after (running : Running team w) (t : Turn) : Running team (w.after word t) := by
  cases t with
  | task id refusal outage => exact running.turn id _
  | late id =>
    rcases late_cases running id .quiet with same | ⟨going, _⟩
    · exact (congrArg (Running team) same).mpr running
    · exact going
  | writes owner r =>
    exact ⟨running.staffed, running.flight, running.manned, running.kept, running.old, running.watched⟩
  | erases owner =>
    exact ⟨running.staffed, running.flight, running.manned, running.kept, running.old, running.watched⟩
  | writer i refusal outage =>
    simp only [Works.after]
    split
    · next r next _ =>
      have answered := running.answer ⟨refusal, outage, word⟩ r
      exact ⟨answered.staffed, answered.flight, answered.manned, answered.kept, answered.old,
        answered.watched⟩
    · exact running
  | outside r => exact running.answer .quiet r
  | passes now =>
    exact ⟨running.staffed, running.flight, running.manned, running.kept, running.old, running.watched⟩
  | clock now =>
    have sound := running.kept.sound
    exact running.withCluster ⟨⟨sound.tokens, sound.bindings, sound.updates⟩, running.kept.registered⟩
      fun s => by cases s <;> exact Nat.le_refl _

end Works

end TokenSteward
