import TokenSteward.Proofs.Works.TaskStep
import TokenSteward.Proofs.Works.Sources

/-! # One worker for one key

As long as each controller has a queue of its own and nobody else takes keys, no two workers of a
controller are in the midst of a pass over one key, and such a key is handed out by the queue. What
the steps have in common is told first: only the task at turn changes, the cluster changes by at most
one request, and a marked key stays marked until it is taken.
-/

namespace TokenSteward.Controller

open TokenSteward.Cluster TokenSteward.Resource TokenSteward.Queue

/-- What is told of one core still holds of another that has more keys to look at. -/
structure Core.Grows (g g' : Core) : Prop where
  cluster : g'.cluster = g.cluster
  width : g'.width = g.width
  size : g.size ≤ g'.size
  fits : g.Fits → g'.Fits
  old : ∀ j, j < g.size → g'.task j = g.task j
  new : g.Fits → ∀ j, g.size ≤ j →
    g'.task j = .finished ∨ ∃ q k delay, g'.task j = .later q k delay none
  closed : ∀ q, (g'.queue q).closed = (g.queue q).closed
  sound : ∀ q, (g.queue q).Sound → (g'.queue q).Sound
  processing : ∀ q, (g'.queue q).processing = (g.queue q).processing
  marked : ∀ q, (g.queue q).closed = false → ∀ k, (g.queue q).marked.contains k = true →
    (g'.queue q).marked.contains k = true

namespace Core

variable {g g' : Core}

theorem Grows.refl (g : Core) : g.Grows g :=
  ⟨rfl, rfl, Nat.le_refl _, id, fun _ _ => rfl, fun fits j beyond => .inl (fits j beyond),
    fun _ => rfl, fun _ sound => sound, fun _ => rfl, fun _ _ _ marked => marked⟩

/-- What holds of the queues before holds of them with one changed, if it holds of that one. -/
theorem file_forall {P : Nat → Queue → Prop} (before : ∀ j, P j (g.queue j)) {q : Nat} {d : Queue}
    (here : P q d) (j : Nat) : P j ((g.file q d).queue j) := by
  by_cases inside : j = q ∧ q < g.width
  · have changed : (g.file q d).queue j = d := if_pos inside
    rw [changed, inside.1]
    exact here
  · have same : (g.file q d).queue j = g.queue j := if_neg inside
    rw [same]
    exact before j

/-- Adding keys to a queue lets a core grow. -/
theorem grows_addAll (g : Core) (q : Nat) (keys : List Key) :
    g.Grows (g.file q ((g.queue q).addAll keys)) := by
  refine ⟨rfl, rfl, Nat.le_refl _, fun fits => fits, fun _ _ => rfl,
    fun fits j beyond => .inl (fits j beyond), fun j => ?_, fun j => ?_, fun j => ?_, fun j => ?_⟩
  · exact file_forall (P := fun j d => d.closed = (g.queue j).closed) (fun _ => rfl) (closed_addAll keys) j
  · exact file_forall (P := fun j d => (g.queue j).Sound → d.Sound) (fun _ sound => sound)
      (fun sound => sound.addAll keys) j
  · exact file_forall (P := fun j d => d.processing = (g.queue j).processing) (fun _ => rfl)
      (processing_addAll keys) j
  · refine file_forall (P := fun j d => (g.queue j).closed = false → ∀ k,
      (g.queue j).marked.contains k = true → d.marked.contains k = true)
      (fun _ _ _ marked => marked) (fun opened k marked => ?_) j
    rw [marked_addAll opened, marked, Bool.or_true]

theorem grows_add (g : Core) (q : Nat) (k : Key) : g.Grows (g.file q ((g.queue q).add k).1) :=
  g.grows_addAll q [k]

theorem grows_later (g : Core) (q : Nat) (k : Key) (delay : Time.Span) :
    g.Grows (g.push (.later q k delay none)) := by
  refine ⟨rfl, rfl, Nat.le_succ _, fun fits => fits.push _, fun j old => ?_, fun fits j beyond => ?_,
    fun _ => rfl, fun _ sound => sound, fun _ => rfl, fun _ _ _ marked => marked⟩
  · exact push_task_of_ne g _ (Nat.ne_of_lt old)
  · by_cases last : j = g.size
    · subst last
      exact .inr ⟨q, k, delay, push_task_self g _⟩
    · rw [push_task_of_ne g _ last]
      exact .inl (fits j beyond)

end Core

variable {q : Nat} {k : Key} {g g' : Core}

theorem Retried.grows (retried : Retried q k g g') : g.Grows g' := by
  cases retried with
  | atOnce => exact g.grows_add q k
  | later delay => exact g.grows_later q k delay

theorem Follows.grows {r : Except Failure Action} (follows : Follows q k g r g') : g.Grows g' := by
  cases follows with
  | requeued again => exact again.grows
  | retried _ again => exact again.grows
  | _ => exact .refl g

/-! ## What steps have in common -/

namespace TaskStep

variable {team : List Controller} {x : Chance} {id : Nat}

/-- What a task asks for in the midst of a pass: one that gathers keys, or a worker's. -/
inductive Asking (team : List Controller) (g : Core) (id : Nat) (r : Request) : Prop where
  | gathers {i : Nat} {next : r.Answer → Pass (List Key)}
      {again : Option (Pass (List Key)) → Task} (gathers : (g.task id).Gathers i (.ask r next) again)
  | works {i since : Nat} {k : Key} {next : r.Answer → Pass Action} {resting : Option Nat}
      {c : Controller} (busy : g.task id = .worker i (.busy k (.ask r next) since resting))
      (member : team[i]? = some c)

/-- A step makes one request at most. -/
theorem cluster_cases (step : TaskStep team x id g g') : g'.cluster = g.cluster ∨
    ∃ r, Asking team g id r ∧ g'.cluster = (g.cluster.answer x r).2 := by
  cases step with
  | launched => exact .inl (by simp)
  | gathering gathers => exact .inr ⟨_, .gathers gathers, rfl⟩
  | asked busy member => exact .inr ⟨_, .works busy member, rfl⟩
  | ended _ _ _ follows => exact .inl follows.grows.cluster
  | _ => exact .inl rfl

theorem width (step : TaskStep team x id g g') : g'.width = g.width := by
  cases step with
  | launched => simp
  | ended _ _ _ follows => exact follows.grows.width
  | _ => rfl

theorem size_le (step : TaskStep team x id g g') : g.size ≤ g'.size := by
  cases step with
  | launched => exact Core.le_size_pushAll _ _
  | ended _ _ _ follows => exact follows.grows.size
  | _ => exact Nat.le_refl _

/-- Of the old tasks only the one at turn changes. -/
theorem task_of_ne (step : TaskStep team x id g g') {j : Nat} (old : j < g.size) (other : j ≠ id) :
    g'.task j = g.task j := by
  cases step with
  | launched => rw [Core.set_task_of_ne _ _ other, Core.pushAll_task_of_lt _ old]
  | ended _ _ _ follows =>
    rw [Core.set_task_of_ne _ _ other, Core.file_task, follows.grows.old j old]
  | rests => rfl
  | gathered => rw [Core.file_task, Core.set_task_of_ne _ _ other]
  | gathering => rw [Core.set_task_of_ne _ _ other, Core.withCluster_task]
  | took => rw [Core.set_task_of_ne _ _ other, Core.file_task]
  | asked => rw [Core.set_task_of_ne _ _ other, Core.withCluster_task]
  | told => rw [Core.set_task_of_ne _ _ other, Core.file_task]
  | added => rw [Core.set_task_of_ne _ _ other, Core.file_task]
  | handed => rw [Core.set_task_of_ne _ _ other, Core.file_task]
  | _ => rw [Core.set_task_of_ne _ _ other]

/-- Whoever is at turn is a task. -/
theorem lt_size (step : TaskStep team x id g g') (fits : g.Fits) : g' = g ∨ id < g.size := by
  have inside {t : Task} (here : g.task id = t) (other : t ≠ .finished) : id < g.size :=
    Core.lt_size fits (here ▸ other)
  have gathering {i : Nat} {p : Pass (List Key)} {again : Option (Pass (List Key)) → Task}
      (gathers : (g.task id).Gathers i p again) : id < g.size := by
    apply Core.lt_size fits
    intro none
    rw [none] at gathers
    cases gathers
  cases step with
  | rests => exact .inl rfl
  | quits idle =>
    rcases idle with ⟨due, here⟩ | ⟨work, here⟩ <;> exact .inr (inside here (by simp))
  | gathered gathers => exact .inr (gathering gathers)
  | scattered gathers => exact .inr (gathering gathers)
  | gathering gathers => exact .inr (gathering gathers)
  | launched here => exact .inr (inside here (by simp))
  | sighted here => exact .inr (inside here (by simp))
  | missed here => exact .inr (inside here (by simp))
  | began here => exact .inr (inside here (by simp))
  | took here => exact .inr (inside here (by simp))
  | asked here => exact .inr (inside here (by simp))
  | told here => exact .inr (inside here (by simp))
  | rested here => exact .inr (inside here (by simp))
  | resumed here => exact .inr (inside here (by simp))
  | ended here => exact .inr (inside here (by simp))
  | delayed here => exact .inr (inside here (by simp))
  | added here => exact .inr (inside here (by simp))
  | handed here => exact .inr (inside here (by simp))

theorem fits (step : TaskStep team x id g g') (fits : g.Fits) : g'.Fits := by
  rcases step.lt_size fits with rfl | inside
  · exact fits
  · cases step with
    | rests => exact fits
    | launched =>
      exact (fits.pushAll _).set (Nat.lt_of_lt_of_le inside (Core.le_size_pushAll _ _)) _
    | gathered => exact fits.set inside _
    | gathering => exact Core.Fits.set (g := g.withCluster _) fits inside _
    | took => exact Core.Fits.set (g := g.file _ _) fits inside _
    | asked => exact Core.Fits.set (g := g.withCluster _) fits inside _
    | told => exact Core.Fits.set (g := g.file _ _) fits inside _
    | ended _ _ _ follows =>
      have grows := follows.grows
      exact Core.Fits.set (g := Core.file _ _ _) (grows.fits fits)
        (Nat.lt_of_lt_of_le inside grows.size) _
    | added => exact Core.Fits.set (g := g.file _ _) fits inside _
    | handed => exact Core.Fits.set (g := g.file _ _) fits inside _
    | _ => exact fits.set inside _

/-- A task of a controller that starts follows a store, is about to list, or looks for a key. -/
theorem mem_partsOfAll {c : Cluster} {now : Nat} {all : List Nat} {t : Task}
    (new : t ∈ partsOfAll team c now all) : ∃ i ∈ all, ∃ k, team[i]? = some k ∧
      ((∃ w ∈ k.watches ++ [⟨k.source, .own⟩], t = .watch i w (w.source.published c) none) ∨
        t = .resync i now none ∨ t = .worker i .idle) := by
  obtain ⟨i, member, here⟩ := List.mem_flatMap.mp new
  split at here
  · simp at here
  · next k found =>
    refine ⟨i, member, k, found, ?_⟩
    rcases List.mem_append.mp here with follows | rest
    · obtain ⟨w, among, same⟩ := List.mem_map.mp follows
      exact .inl ⟨w, among, same.symm⟩
    · rcases List.mem_cons.mp rest with same | works
      · exact .inr (.inl same)
      · exact .inr (.inr (List.eq_of_mem_replicate works))

/-- A new task adds a key later, or is one of a controller that starts. -/
theorem task_new (step : TaskStep team x id g g') (fits : g.Fits) {j : Nat} (beyond : g.size ≤ j) :
    g'.task j = .finished ∨ (∃ q k delay, g'.task j = .later q k delay none) ∨
      ∃ all now, g.task id = .launch all ∧ g'.task j ∈ partsOfAll team g.cluster now all := by
  rcases step.lt_size fits with rfl | inside
  · exact .inl (fits j beyond)
  have other : j ≠ id := by omega
  cases step with
  | launched launches now =>
    rw [Core.set_task_of_ne _ _ other]
    rcases Core.pushAll_task_cases fits (partsOfAll team g.cluster now _) j with ⟨old, _⟩ | ⟨_, new⟩
    · omega
    · exact new.elim (fun new => .inr (.inr ⟨_, now, launches, new⟩)) .inl
  | ended _ _ _ follows =>
    rw [Core.set_task_of_ne _ _ other]
    rcases follows.grows.new fits j beyond with none | ⟨q, k, delay, here⟩
    · exact .inl none
    · exact .inr (.inl ⟨q, k, delay, here⟩)
  | rests => exact .inl (fits j beyond)
  | gathered => exact .inl ((Core.set_task_of_ne _ _ other).trans (fits j beyond))
  | _ => exact .inl ((Core.set_task_of_ne _ _ other).trans (fits j beyond))

/-- How a worker has come to be in the midst of a pass. -/
inductive Working (team : List Controller) (x : Chance) (id : Nat) (g g' : Core) (j i : Nat)
    (k : Key) : Pass Action → Prop where
  | kept {p : Pass Action} {since : Nat} {resting : Option Nat}
      (before : g.task j = .worker i (.busy k p since resting))
      (still : j = id → g'.cluster = g.cluster) : Working team x id g g' j i k p
  | began {c : Controller} {rest : List Key} (count : Nat) (turn : j = id)
      (idle : g.task j = .worker i .idle) (member : team[i]? = some c)
      (waits : (g.queue c.queue).waiting = k :: rest)
      (taken : g'.queue = (g.file c.queue ((g.queue c.queue).taken k rest)).queue)
      (same : g'.cluster = g.cluster) : Working team x id g g' j i k (c.reconcile k count)
  | answered {r : Request} {next : r.Answer → Pass Action} {since : Nat} {resting : Option Nat}
      (turn : j = id) (before : g.task j = .worker i (.busy k (.ask r next) since resting))
      (other : ∀ q k, r ≠ .enqueue q k) (served : g'.cluster = (g.cluster.answer x r).2) :
      Working team x id g g' j i k (next (g.cluster.answer x r).1)
  | told {q : Nat} {other : Key} {next : (Request.enqueue q other).Answer → Pass Action}
      {since : Nat} {resting : Option Nat} (turn : j = id)
      (before : g.task j = .worker i (.busy k (.ask (.enqueue q other) next) since resting))
      (added : g'.queue = (g.file q ((g.queue q).add other).1).queue)
      (same : g'.cluster = g.cluster) : Working team x id g g' j i k (next ())
  | resumed {span : Time.Span} {next : (Request.pause span).Answer → Pass Action} {since : Nat}
      {resting : Option Nat} (turn : j = id)
      (before : g.task j = .worker i (.busy k (.ask (.pause span) next) since resting))
      (same : g'.cluster = g.cluster) : Working team x id g g' j i k (next ())

theorem working (step : TaskStep team x id g g') (fits : g.Fits) {j i since : Nat} {k : Key}
    {p : Pass Action} {resting : Option Nat}
    (busy : g'.task j = .worker i (.busy k p since resting)) : Working team x id g g' j i k p := by
  by_cases beyond : g.size ≤ j
  · rcases step.task_new fits beyond with none | ⟨q, k, delay, here⟩ | ⟨all, now, _, new⟩
    · rw [none] at busy
      contradiction
    · rw [here] at busy
      contradiction
    · rw [busy] at new
      obtain ⟨_, _, _, _, ⟨w, _, here⟩ | here | here⟩ := mem_partsOfAll new <;> cases here
  by_cases turn : j = id
  · subst turn
    cases step with
    | rests => exact .kept busy fun _ => rfl
    | took idle member waits count =>
      rw [Core.set_task_self] at busy
      cases busy
      exact .began count rfl idle member waits rfl rfl
    | asked before _ other =>
      rw [Core.set_task_self] at busy
      cases busy
      exact .answered rfl before other rfl
    | told before =>
      rw [Core.set_task_self] at busy
      cases busy
      exact .told rfl before rfl rfl
    | rested before =>
      rw [Core.set_task_self] at busy
      cases busy
      exact .kept before fun _ => rfl
    | resumed before =>
      rw [Core.set_task_self] at busy
      cases busy
      exact .resumed rfl before rfl
    | gathered gathers =>
      rw [Core.file_task, Core.set_task_self] at busy
      generalize g.task j = t at gathers
      cases gathers <;> contradiction
    | scattered gathers =>
      rw [Core.set_task_self] at busy
      generalize g.task j = t at gathers
      cases gathers <;> contradiction
    | gathering gathers =>
      rw [Core.set_task_self] at busy
      generalize g.task j = t at gathers
      cases gathers <;> contradiction
    | _ =>
      rw [Core.set_task_self] at busy
      cases busy
  · rw [step.task_of_ne (by omega) turn] at busy
    exact .kept busy fun same => absurd same turn

/-- No step closes a queue. -/
theorem closed (step : TaskStep team x id g g') (q : Nat) : (g'.queue q).closed = (g.queue q).closed := by
  have file {h : Core} (same : ∀ j, (h.queue j).closed = (g.queue j).closed) {j : Nat} {d : Queue}
      (here : d.closed = (h.queue j).closed) : ((h.file j d).queue q).closed = (g.queue q).closed :=
    Core.file_forall (P := fun j d => d.closed = (g.queue j).closed) same (here.trans (same j)) q
  cases step with
  | launched => simp
  | gathered => exact file (h := g.set id _) (fun _ => rfl) (closed_addAll _)
  | took => exact file (fun _ => rfl) rfl
  | told => exact file (fun _ => rfl) (closed_add _)
  | ended _ _ _ follows => exact file follows.grows.closed (closed_done _)
  | added => exact file (fun _ => rfl) (closed_add _)
  | handed => exact file (fun _ => rfl) rfl
  | _ => rfl

/-- A worker begins a pass over a key of its queue. -/
def Begins (team : List Controller) (g g' : Core) (q : Nat) (k : Key) (id : Nat) : Prop :=
  ∃ i c count now, team[i]? = some c ∧ c.queue = q ∧ g.task id = .worker i .idle ∧
    g'.task id = .worker i (.busy k (c.reconcile k count) now none)

theorem marked_taken {d : Queue} {k : Key} (k' : Key) (rest : List Key)
    (marked : d.marked.contains k = true) :
    (d.taken k' rest).marked.contains k = true ∨ k = k' := by
  by_cases here : k = k'
  · exact .inr here
  · refine .inl ?_
    simpa [Queue.taken, Table.contains_erase, here] using marked

/-- A marked key stays marked until it is taken. -/
theorem marked (step : TaskStep team x id g g') (opened : ∀ q, (g.queue q).closed = false) {q : Nat}
    {k : Key} (marked : (g.queue q).marked.contains k = true) :
    (g'.queue q).marked.contains k = true ∨ Begins team g g' q k id ∨ g.task id = .getter q := by
  have adds {h : Core} (grows : g.Grows h) : (h.queue q).marked.contains k = true :=
    grows.marked q (opened q) k marked
  cases step with
  | launched => exact .inl (by simpa using marked)
  | gathered =>
    exact .inl (((g.set id _).grows_addAll _ _).marked q (opened q) k marked)
  | @took i now k' rest c idle member waits count =>
    by_cases here : q = c.queue ∧ c.queue < g.width
    · obtain ⟨rfl, inside⟩ := here
      rcases marked_taken k' rest marked with kept | rfl
      · exact .inl (by rwa [Core.set_queue, Core.file_queue_self _ _ inside])
      · exact .inr (.inl ⟨i, c, count, now, member, rfl, idle, Core.set_task_self _ _ _⟩)
    · have same : (g.file c.queue ((g.queue c.queue).taken k' rest)).queue q = g.queue q := if_neg here
      exact .inl (by rwa [Core.set_queue, same])
  | told => exact .inl ((g.grows_add _ _).marked q (opened q) k marked)
  | ended _ _ _ follows =>
    refine .inl (Core.file_forall (P := fun j d => j = q → d.marked.contains k = true)
      (fun j here => ?_) (fun here => ?_) q rfl)
    · rw [here]
      exact adds follows.grows
    · rw [marked_done, here]
      exact adds follows.grows
  | added => exact .inl ((g.grows_add _ _).marked q (opened q) k marked)
  | @handed q' k' rest waits first =>
    by_cases here : q = q' ∧ q' < g.width
    · exact .inr (.inr (here.1 ▸ waits))
    · have same : (g.file q' ((g.queue q').taken k' rest)).queue q = g.queue q := if_neg here
      exact .inl (by rwa [Core.set_queue, same])
  | _ => exact .inl marked

end TaskStep

/-! ## Flight -/

/-- A worker of a controller is in the midst of a pass over a key. -/
def Busy (g : Core) (id i : Nat) (k : Key) : Prop :=
  ∃ p since resting, g.task id = .worker i (.busy k p since resting)

/-- Each controller has a queue of its own, and nobody else takes keys. -/
structure Manned (team : List Controller) (g : Core) : Prop where
  apart : ∀ {i j : Nat} {c d : Controller}, team[i]? = some c → team[j]? = some d →
    c.queue = d.queue → i = j
  there : ∀ {i : Nat} {c : Controller}, team[i]? = some c → c.queue < g.width
  alone : ∀ id q, g.task id ≠ .getter q

/-- Queues are open and sound, what a worker works on is handed out, and to nobody else. -/
structure Flight (team : List Controller) (g : Core) : Prop where
  fits : g.Fits
  opened : ∀ q, (g.queue q).closed = false
  sound : ∀ q, (g.queue q).Sound
  held : ∀ {id i : Nat} {k : Key} {c : Controller}, Busy g id i k → team[i]? = some c →
    (g.queue c.queue).processing.contains k = true
  single : ∀ {id id' i : Nat} {k : Key} {c : Controller}, Busy g id i k → Busy g id' i k →
    team[i]? = some c → id = id'

variable {team : List Controller} {x : Chance} {id : Nat}

theorem Manned.withCluster (manned : Manned team g) (c : Cluster) : Manned team (g.withCluster c) :=
  ⟨manned.apart, manned.there, manned.alone⟩

theorem Flight.withCluster (flight : Flight team g) (c : Cluster) : Flight team (g.withCluster c) :=
  ⟨flight.fits, flight.opened, flight.sound, flight.held, flight.single⟩

/-- Only a worker of the controller whose queue it is begins with a key of a queue. -/
theorem TaskStep.Begins.worker {i : Nat} {c : Controller} (begins : TaskStep.Begins team g g' c.queue k id)
    (manned : Manned team g) (member : team[i]? = some c) :
    ∃ count now, g'.task id = .worker i (.busy k (c.reconcile k count) now none) := by
  obtain ⟨j, c', count, now, member', queue, _, here⟩ := begins
  obtain rfl := manned.apart member' member queue
  obtain rfl := Option.some.inj (member'.symm.trans member)
  exact ⟨count, now, here⟩

/-- No step makes a task that takes keys for someone outside. -/
theorem Manned.taskStep (manned : Manned team g) (fits : g.Fits) (step : TaskStep team x id g g') :
    Manned team g' := by
  refine ⟨manned.apart, fun member => step.width ▸ manned.there member, ?_⟩
  intro j q takes
  by_cases beyond : g.size ≤ j
  · rcases step.task_new fits beyond with none | ⟨q, k, delay, here⟩ | ⟨all, now, _, new⟩
    · rw [none] at takes
      contradiction
    · rw [here] at takes
      contradiction
    · rw [takes] at new
      obtain ⟨_, _, _, _, ⟨w, _, here⟩ | here | here⟩ := TaskStep.mem_partsOfAll new <;> contradiction
  by_cases turn : j = id
  · subst turn
    have alone := manned.alone j
    cases step with
    | rests => exact alone q takes
    | gathered gathers =>
      rw [Core.file_task, Core.set_task_self] at takes
      generalize g.task j = t at gathers
      cases gathers <;> contradiction
    | scattered gathers =>
      rw [Core.set_task_self] at takes
      generalize g.task j = t at gathers
      cases gathers <;> contradiction
    | gathering gathers =>
      rw [Core.set_task_self] at takes
      generalize g.task j = t at gathers
      cases gathers <;> contradiction
    | _ =>
      rw [Core.set_task_self] at takes
      contradiction
  · rw [step.task_of_ne (by omega) turn] at takes
    exact manned.alone j q takes

/-- Who is in the midst of a pass was so before, or has just taken the key. -/
theorem TaskStep.busy_cases (step : TaskStep team x id g g') (fits : g.Fits) {j i : Nat} {k : Key}
    (busy : Busy g' j i k) : Busy g j i k ∨ (j = id ∧ ∃ c rest, team[i]? = some c ∧
      (g.queue c.queue).waiting = k :: rest ∧
      g'.queue = (g.file c.queue ((g.queue c.queue).taken k rest)).queue) := by
  obtain ⟨p, since, resting, here⟩ := busy
  cases step.working fits here with
  | kept before => exact .inl ⟨_, _, _, before⟩
  | began count turn idle member waits taken => exact .inr ⟨turn, _, _, member, waits, taken⟩
  | answered _ before => exact .inl ⟨_, _, _, before⟩
  | told _ before => exact .inl ⟨_, _, _, before⟩
  | resumed _ before => exact .inl ⟨_, _, _, before⟩

theorem processing_taken {d : Queue} {k k' : Key} {rest : List Key}
    (held : d.processing.contains k = true) : (d.taken k' rest).processing.contains k = true := by
  simp [Queue.taken, Table.contains_insert, held]

/-- A key that is handed out stays so until the worker gives it back. -/
theorem TaskStep.processing (step : TaskStep team x id g g') {q : Nat} {k : Key}
    (held : (g.queue q).processing.contains k = true) :
    (g'.queue q).processing.contains k = true ∨
      ∃ i c, team[i]? = some c ∧ c.queue = q ∧ Busy g id i k ∧ g'.task id = .worker i .idle := by
  have adds {h h' : Core} (grows : h.Grows h') (same : h.queue q = g.queue q) :
      (h'.queue q).processing.contains k = true := by
    rw [grows.processing q, same]
    exact held
  have takes (q' : Nat) (k' : Key) (rest : List Key) :
      ((g.file q' ((g.queue q').taken k' rest)).queue q).processing.contains k = true :=
    Core.file_forall (P := fun j d => j = q → d.processing.contains k = true)
      (fun j here => here ▸ held) (fun here => processing_taken (here ▸ held)) q rfl
  cases step with
  | launched => exact .inl (by simpa using held)
  | gathered => exact .inl (adds ((g.set id _).grows_addAll _ _) rfl)
  | took => exact .inl (takes _ _ _)
  | told =>
    left
    rw [Core.set_queue]
    exact adds (g.grows_add _ _) rfl
  | @ended i since k' p resting c result h busy member results follows =>
    have kept : (h.queue q).processing.contains k = true := adds follows.grows rfl
    by_cases mine : c.queue = q ∧ k = k'
    · obtain ⟨rfl, rfl⟩ := mine
      exact .inr ⟨i, c, member, rfl, ⟨p, since, resting, busy⟩, Core.set_task_self _ _ _⟩
    · refine .inl (Core.file_forall (P := fun j d => j = q → d.processing.contains k = true)
        (fun j here => here ▸ kept) (fun here => ?_) q rfl)
      have other : k ≠ k' := fun same => mine ⟨here, same⟩
      rw [processing_done, Table.contains_erase, here, kept]
      simp [other]
  | added =>
    left
    rw [Core.set_queue]
    exact adds (g.grows_add _ _) rfl
  | handed => exact .inl (takes _ _ _)
  | _ => exact .inl held

theorem Flight.sound_taskStep (flight : Flight team g) (step : TaskStep team x id g g') (q : Nat) :
    (g'.queue q).Sound := by
  have sound := flight.sound
  have file {h : Core} (all : ∀ j, (h.queue j).Sound) {j : Nat} {d : Queue} (here : d.Sound) :
      ((h.file j d).queue q).Sound :=
    Core.file_forall (P := fun _ d => d.Sound) all here q
  cases step with
  | launched => simpa using sound q
  | gathered => exact ((g.set id _).grows_addAll _ _).sound q (sound q)
  | took _ _ waits => exact file sound ((sound _).taken waits)
  | told => exact (g.grows_add _ _).sound q (sound q)
  | @ended i since k p resting c result h busy member results follows =>
    have grows := follows.grows
    have held : (h.queue c.queue).processing.contains k = true := by
      rw [grows.processing]
      exact flight.held ⟨p, since, resting, busy⟩ member
    exact file (fun j => grows.sound j (sound j)) ((grows.sound c.queue (sound c.queue)).done held)
  | added => exact (g.grows_add _ _).sound q (sound q)
  | handed _ first => exact file sound ((sound _).taken first)
  | _ => exact sound q

theorem Flight.single_taskStep (flight : Flight team g) (step : TaskStep team x id g g')
    {j j' i : Nat} {k : Key} {c : Controller} (first : Busy g' j i k) (second : Busy g' j' i k)
    (member : team[i]? = some c) : j = j' := by
  have fresh {c : Controller} {rest : List Key} (member : team[i]? = some c)
      (waits : (g.queue c.queue).waiting = k :: rest) {j : Nat} : ¬ Busy g j i k := by
    intro busy
    have free := (flight.sound c.queue).free k (by simp [waits])
    rw [flight.held busy member] at free
    contradiction
  rcases step.busy_cases flight.fits first with old | ⟨turn, c₁, _, member₁, waits₁, _⟩
  · rcases step.busy_cases flight.fits second with old' | ⟨_, c₂, _, member₂, waits₂, _⟩
    · exact flight.single old old' member
    · exact absurd old (fresh member₂ waits₂)
  · rcases step.busy_cases flight.fits second with old' | ⟨turn', _⟩
    · exact absurd old' (fresh member₁ waits₁)
    · exact turn.trans turn'.symm

/-- Every step keeps the flight. -/
theorem Flight.taskStep (flight : Flight team g) (manned : Manned team g)
    (step : TaskStep team x id g g') : Flight team g' := by
  refine ⟨step.fits flight.fits, fun q => (step.closed q).trans (flight.opened q),
    flight.sound_taskStep step, fun {j i k c} busy member => ?_, flight.single_taskStep step⟩
  rcases step.busy_cases flight.fits busy with old | ⟨_, d, rest, member', waits, taken⟩
  · rcases step.processing (flight.held old member) with kept | ⟨i', c', member', same, busy', idle⟩
    · exact kept
    · obtain rfl := manned.apart member' member same
      obtain rfl := flight.single old busy' member
      obtain ⟨p, since, resting, here⟩ := busy
      rw [here] at idle
      cases idle
  · obtain rfl := Option.some.inj (member'.symm.trans member)
    rw [taken, Core.file_queue_self _ _ (manned.there member)]
    simp [Queue.taken, Table.contains_insert]

end TokenSteward.Controller
