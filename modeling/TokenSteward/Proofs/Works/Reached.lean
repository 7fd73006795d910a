import TokenSteward.Proofs.Queue.Course
import TokenSteward.Proofs.Rest.Desks

/-! # Works in whatever state

The works of an operator are reached by turns that each bring their own answers: what a provider says
at one turn does not bind it at another. Besides, the deadline of a pass may come whenever its worker
waits for an answer. Whether the request had its effect all the same makes no difference here: someone
outside may ask for just the same before. All that is relied upon is that a controller's first listing
and those after its follower has missed something are answered.
-/

namespace TokenSteward

open TokenSteward.Cluster TokenSteward.Resource TokenSteward.Queue TokenSteward.Controller

/-! ## Keys of a queue that is shared -/

namespace Queue

variable {q : Queue} {k : Key}

theorem Mindful.addAll (mindful : q.Mindful) (keys : List Key) : (q.addAll keys).Mindful := by
  induction keys generalizing q with
  | nil => exact mindful
  | cons k keys ih => exact ih (mindful.next (.add k))

theorem Mindful.taken {rest : List Key} (mindful : q.Mindful) (waits : q.waiting = k :: rest) :
    (q.taken k rest).Mindful := by
  have next := mindful.next .take
  rwa [Call.next, take_cons waits] at next

/-- A marked key of an open queue waits or is handed out. -/
theorem Mindful.place (mindful : q.Mindful) (opened : q.closed = false)
    (marked : q.marked.contains k = true) : k ∈ q.waiting ∨ q.processing.contains k = true :=
  (mindful opened k marked).imp_right And.left

end Queue

namespace Controller

variable {team : List Controller} {x : Chance} {id q : Nat} {k : Key} {g g' : Core}

theorem Retried.mindful (retried : Retried q k g g') (mindful : ∀ j, (g.queue j).Mindful) (j : Nat) :
    (g'.queue j).Mindful := by
  cases retried with
  | atOnce => exact Core.file_forall (P := fun _ d => d.Mindful) mindful ((mindful q).next (.add k)) j
  | later => exact mindful j

theorem Follows.mindful {r : Except Failure Action} (follows : Follows q k g r g')
    (mindful : ∀ j, (g.queue j).Mindful) (j : Nat) : (g'.queue j).Mindful := by
  cases follows with
  | requeued again => exact again.mindful mindful j
  | retried _ again => exact again.mindful mindful j
  | _ => exact mindful j

/-- No step loses a key that is marked in a queue. -/
theorem TaskStep.mindful (step : TaskStep team x id g g') (mindful : ∀ q, (g.queue q).Mindful) (q : Nat) :
    (g'.queue q).Mindful := by
  have file {h : Core} (all : ∀ j, (h.queue j).Mindful) {j : Nat} {d : Queue} (here : d.Mindful) :
      ((h.file j d).queue q).Mindful :=
    Core.file_forall (P := fun _ d => d.Mindful) all here q
  cases step with
  | launched => simpa using mindful q
  | gathered => exact file (h := g.set id _) mindful ((mindful _).addAll _)
  | took _ _ waits => exact file mindful ((mindful _).taken waits)
  | told => exact file mindful ((mindful _).next (.add _))
  | ended _ _ _ follows =>
    exact file (follows.mindful mindful) ((follows.mindful mindful _).next (.done _))
  | added => exact file mindful ((mindful _).next (.add _))
  | handed _ first => exact file mindful ((mindful _).taken first)
  | _ => exact mindful q

/-- Whether a task has no first listing of a controller before it: it neither starts the controller,
nor lists for it without having brought in a listing. -/
def Task.isPastListing (i : Nat) (listed : List Nat) (id : Nat) : Task → Bool
  | .launch all => !all.contains i
  | .resync j _ _ => j != i || listed.contains id
  | _ => true

instance decidableReliesOn (i : Nat) (listed : List Nat) (id : Nat) : (t : Task) →
    Decidable (ReliesOn i listed id t)
  | .resync j _ (some (.ask _ _)) => inferInstanceAs (Decidable (j = i ∧ id ∉ listed))
  | .watch j w _ (some (.ask _ _)) => inferInstanceAs (Decidable (j = i ∧ w.mapper = .own))
  | .resync _ _ (some (.done _)) | .resync _ _ (some (.fail _)) | .resync _ _ none
  | .watch _ _ _ (some (.done _)) | .watch _ _ _ (some (.fail _)) | .watch _ _ _ none | .launch _
  | .supervise _ | .worker _ _ | .later _ _ _ _ | .getter _ | .got _ | .finished =>
    inferInstanceAs (Decidable False)

end Controller

/-! ## States that are reached -/

namespace Works

/-- A turn is not one at which a listing is refused that a controller relies on. -/
def Lists (i : Nat) (w : Works) : Turn → Prop
  | .task id refusal _ => ReliesOn i w.listed id (w.task id) → refusal = none
  | _ => True

instance decidableLists (i : Nat) (w : Works) : (t : Turn) → Decidable (Lists i w t)
  | .task _ _ _ => inferInstanceAs (Decidable (_ → _))
  | .late _ | .writes _ _ | .erases _ | .writer _ _ _ | .outside _ | .passes _ | .clock _ =>
    inferInstanceAs (Decidable True)

/-- The works are reached from others, and all listings that a controller relies on are answered on
the way. -/
inductive Reached (i : Nat) (first : Works) : Works → Prop where
  | start : Reached i first first
  | turn {w : Works} (reached : Reached i first w) (word : Word) (t : Turn) (lists : Lists i w t) :
      Reached i first (w.after word t)

/-- A controller has made its first listing. -/
def HasListed (w : Works) (i : Nat) : Prop :=
  ∀ id < w.machine.tasks.size, (w.task id).isPastListing i w.listed id = true

instance (w : Works) (i : Nat) : Decidable (w.HasListed i) :=
  inferInstanceAs (Decidable (∀ id < w.machine.tasks.size, _ = true))

variable {first w : Works} {team : List Controller} {i : Nat}

/-- Turns with one word of the providers lead from what is reached to what is reached. -/
theorem Reached.run (reached : Reached i first w) (word : Word) (turns : List Turn)
    (along : Along word (Lists i) w turns) : Reached i first (Works.run word w turns) := by
  induction turns generalizing w with
  | nil => exact reached
  | cons t rest ih => exact ih (reached.turn word t along.1) along.2

theorem Reached.running (reached : Reached i first w) (begins : Running team first) :
    Running team w := by
  induction reached with
  | start => exact begins
  | turn _ word t _ ih => exact ih.after t

/-- What is reached has a later cluster. -/
theorem Reached.later (reached : Reached i first w)
    (begins : Running team first) : first.machine.cluster.Later w.machine.cluster := by
  have answered {g g' : Core} {x : Chance} {id : Nat} (step : TaskStep team x id g g')
      (later : first.machine.cluster.Later g.cluster) : first.machine.cluster.Later g'.cluster := by
    rcases step.cluster_cases with same | ⟨r, _, served⟩
    · rwa [same]
    · rw [served]
      exact later.answer x r
  induction reached with
  | start => exact .now
  | @turn w reached word t _ ih =>
    have running := reached.running begins
    cases t with
    | task id refusal outage =>
      exact answered (Machine.taskStep_turn running.staffed running.flight.opened id _) ih
    | late id =>
      simp only [Works.after]
      rcases late_cases running id .quiet with same | ⟨_, _, step, _⟩
      · rw [same]
        exact ih
      · exact answered step ih
    | writer j refusal outage =>
      simp only [Works.after]
      split
      · exact ih.answer _ _
      · exact ih
    | outside r => exact ih.answer .quiet r
    | clock now => exact ih.clock now
    | _ => exact ih

/-- Who follows a store goes on with it, and has seen no more than there was. -/
theorem Reached.hears (reached : Reached i first w) (begins : Running team first) {j : Nat}
    {c : Controller} (member : team[j]? = some c) {v : Watch} (among : v ∈ c.watches ++ [⟨c.source, .own⟩])
    (hears : Hears v j first.machine.core (v.source.published first.machine.cluster)) :
    Hears v j w.machine.core (v.source.published w.machine.cluster) := by
  induction reached with
  | start => exact hears
  | @turn w reached word t _ ih =>
    have running := reached.running begins
    have sound := running.kept.sound
    cases t with
    | task id refusal outage =>
      have step := Machine.taskStep_turn running.staffed running.flight.opened id ⟨refusal, outage, word⟩
      exact (ih.taskStep step running.flight.fits member among).mono (step.published_le sound _)
    | late id =>
      simp only [Works.after]
      rcases late_cases running id .quiet with same | ⟨_, _, step, _⟩
      · rw [same]
        exact ih
      · exact (ih.taskStep step running.flight.fits member among).mono (step.published_le sound _)
    | writer j refusal outage =>
      simp only [Works.after]
      split
      · exact ih.mono (Source.published_answer_le sound _ _)
      · exact ih
    | outside r => exact ih.mono (Source.published_answer_le sound _ _)
    | clock now =>
      apply ih.mono
      cases v.source <;> exact Nat.le_refl _
    | _ => exact ih

/-- No key that is marked in a queue is lost. -/
theorem Reached.mindful (reached : Reached i first w) (begins : Running team first)
    (empty : ∀ q, (first.machine.core.queue q).Mindful) (q : Nat) :
    (w.machine.core.queue q).Mindful := by
  induction reached generalizing q with
  | start => exact empty q
  | @turn w reached word t _ ih =>
    have running := reached.running begins
    cases t with
    | task id refusal outage =>
      exact (Machine.taskStep_turn running.staffed running.flight.opened id _).mindful ih q
    | late id =>
      simp only [Works.after]
      rcases late_cases running id .quiet with same | ⟨_, _, step, _⟩
      · rw [same]
        exact ih q
      · exact step.mindful ih q
    | writer j refusal outage =>
      simp only [Works.after]
      split
      · exact ih q
      · exact ih q
    | _ => exact ih q

end Works

end TokenSteward
