import TokenSteward.Proofs.Rest.Desks

/-! # Orderly works

Each task of an operator is in the midst of a pass that fits its desk, at every point of every run. So
what the status of a token depends on is changed by a task only together with the token itself, and a
data update is deleted only by the worker that is over it.
-/

namespace TokenSteward

open TokenSteward.Cluster TokenSteward.Resource TokenSteward.Provider TokenSteward.Controller

/-- Each task is in the midst of a pass that fits its desk, and no uid is drawn twice. -/
structure Orderly (g : Core) : Prop where
  unique : Function.Injective g.cluster.tokens.draws.uid
  gathers : ∀ {id i : Nat} {p : Pass (List Key)} {again : Option (Pass (List Key)) → Task},
    (g.task id).Gathers i p again → p.Asks Source.Lists
  tokens : ∀ {id since : Nat} {k : Key} {p : Pass Action} {resting : Option Nat},
    g.task id = .worker 0 (.busy k p since resting) →
      ∃ known, g.cluster.Dooms known ∧ p.Obeys tidy (fun _ _ => True) known
  bindings : ∀ {id since : Nat} {k : Key} {p : Pass Action} {resting : Option Nat},
    g.task id = .worker 1 (.busy k p since resting) → p.Asks (BindingDesk.Requests k)
  updates : ∀ {id since : Nat} {k : Key} {p : Pass Action} {resting : Option Nat},
    g.task id = .worker 2 (.busy k p since resting) → Desks.updates.Consuming k g.cluster p

/-- A task has told of the token of a data update, and is about to delete it. -/
def Closes (g : Core) (id : Nat) (k : Key) : Prop :=
  ∃ since resting, g.task id = .worker 2 (.busy k (UpdateDesk.closing k) since resting)

namespace Orderly

variable {d : Desks} {g g' : Core} {x : Chance} {id : Nat}

/-- What the status of a token depends on is changed by a task only with the token. -/
theorem view_of_asking (orderly : Orderly g) (kept : g.cluster.Kept) {r : Request}
    (asking : TaskStep.Asking d.team g id r) {k : Key}
    (tokens : (g.cluster.answer x r).2.tokens.get? k = g.cluster.tokens.get? k) :
    (g.cluster.answer x r).2.view k = g.cluster.view k := by
  cases asking with
  | gathers gathers =>
    have lists := (orderly.gathers gathers).1
    exact congrArg (Cluster.view · k) (Source.Lists.answer lists g.cluster x)
  | works busy member =>
    rcases Desks.member_cases member with ⟨rfl, _⟩ | ⟨rfl, _⟩ | ⟨rfl, _⟩
    · obtain ⟨known, dooms, obeys⟩ := orderly.tokens busy
      exact dooms.view_answer kept x obeys.1 tokens
    · have request := (orderly.bindings busy).1
      exact Cluster.view_answer x (by cases request <;> simp) tokens
    · have request := (orderly.updates busy).asks
      exact Cluster.view_answer x (by cases request <;> simp) tokens

/-- A data update is deleted by nobody but a worker that is at the end of a pass over it. -/
theorem spares_of_asking (orderly : Orderly g) {r : Request} (asking : TaskStep.Asking d.team g id r)
    {k : Key} (other : ¬ Closes g id k) : SparesUpdate k r := by
  cases asking with
  | gathers gathers =>
    have lists := (orderly.gathers gathers).1
    cases lists <;> exact ⟨by simp, by simp⟩
  | @works i since k' next resting c busy member =>
    rcases Desks.member_cases member with ⟨rfl, _⟩ | ⟨rfl, _⟩ | ⟨rfl, _⟩
    · obtain ⟨known, _, obeys⟩ := orderly.tokens busy
      have allowed := obeys.1
      refine ⟨fun same => ?_, fun o same => ?_⟩ <;> (subst same; exact allowed)
    · have request := (orderly.bindings busy).1
      cases request <;> exact ⟨by simp, by simp⟩
    · refine (orderly.updates busy).spares fun same ends => other ?_
      rw [ends, same] at busy
      exact ⟨_, _, busy⟩

/-- A data update stays at a key unless the worker at turn is at the end of a pass over it. -/
theorem names_taskStep (orderly : Orderly g) (sound : g.cluster.Sound) (step : TaskStep d.team x id g g')
    {k token : Key} (other : ¬ Closes g id k ∨ g'.cluster = g.cluster)
    (names : g.cluster.Names k token) : g'.cluster.Names k token := by
  rcases step.cluster_cases with same | ⟨r, asking, served⟩
  · rwa [same]
  · rcases other with other | same
    · rw [served]
      exact names.answer sound x (orderly.spares_of_asking asking other)
    · rwa [same]

theorem dooms_taskStep (orderly : Orderly g) (kept : g.cluster.Kept) (step : TaskStep d.team x id g g')
    {known : Option (Key × String)} (dooms : g.cluster.Dooms known) : g'.cluster.Dooms known := by
  rcases step.cluster_cases with same | ⟨r, _, served⟩
  · rwa [same]
  · rw [served]
    exact dooms.answer kept orderly.unique x r

/-- Who gathers keys does nothing but list. -/
theorem gathers_taskStep (orderly : Orderly g) (fits : g.Fits) (step : TaskStep d.team x id g g')
    {j i : Nat} {p : Pass (List Key)} {again : Option (Pass (List Key)) → Task}
    (gathers : (g'.task j).Gathers i p again) : p.Asks Source.Lists := by
  have fresh {t : Task} (here : g'.task j = t)
      (other : ∀ i p again, ¬ t.Gathers i p again) : p.Asks Source.Lists := by
    rw [here] at gathers
    exact absurd gathers (other _ _ _)
  by_cases beyond : g.size ≤ j
  · rcases step.task_new fits beyond with none | ⟨q, k, delay, here⟩ | ⟨all, now, _, new⟩
    · exact fresh none fun _ _ _ gathers => nomatch gathers
    · exact fresh here fun _ _ _ gathers => nomatch gathers
    · obtain ⟨_, _, _, _, ⟨w, _, here⟩ | here | here⟩ := TaskStep.mem_partsOfAll new
      · exact fresh here fun _ _ _ gathers => nomatch gathers
      · exact fresh here fun _ _ _ gathers => nomatch gathers
      · exact fresh here fun _ _ _ gathers => nomatch gathers
  by_cases turn : j = id
  · subst turn
    cases step with
    | rests => exact orderly.gathers gathers
    | @sighted i' seen later w e =>
      rw [Core.set_task_self] at gathers
      cases gathers
      exact w.mapper.asks_keys e
    | @missed i' seen later w =>
      rw [Core.set_task_self] at gathers
      cases gathers
      exact w.asks_relist
    | @began i' due c =>
      rw [Core.set_task_self] at gathers
      cases gathers
      exact c.source.asks_allKeys
    | gathered earlier =>
      rw [Core.file_task, Core.set_task_self] at gathers
      rcases earlier.cases with ⟨w, seen, _, rfl⟩ | ⟨due, _, rfl⟩ <;> cases gathers
    | scattered earlier =>
      rw [Core.set_task_self] at gathers
      rcases earlier.cases with ⟨w, seen, _, rfl⟩ | ⟨due, _, rfl⟩ <;> cases gathers
    | gathering earlier =>
      rw [Core.set_task_self] at gathers
      have next := (orderly.gathers earlier).2 (g.cluster.answer x _).1 () trivial
      rcases earlier.cases with ⟨w, seen, _, rfl⟩ | ⟨due, _, rfl⟩
      · cases gathers
        exact next
      · cases gathers
        exact next
    | _ =>
      rw [Core.set_task_self] at gathers
      cases gathers
  · rw [step.task_of_ne (by omega) turn] at gathers
    exact orderly.gathers gathers

/-- No step changes what is drawn. -/
theorem unique_taskStep (orderly : Orderly g) (step : TaskStep d.team x id g g') :
    Function.Injective g'.cluster.tokens.draws.uid := by
  rcases step.cluster_cases with same | ⟨r, _, served⟩
  · rw [same]
    exact orderly.unique
  · rw [served, draws_answer]
    exact orderly.unique

/-- Every step keeps the works orderly. -/
theorem taskStep (orderly : Orderly g) (flight : Flight d.team g) (kept : g.cluster.Kept)
    (step : TaskStep d.team x id g g') : Orderly g' := by
  refine ⟨orderly.unique_taskStep step, orderly.gathers_taskStep flight.fits step, fun busy => ?_,
    fun busy => ?_, fun {j since k p resting} busy => ?_⟩
  · cases step.working flight.fits busy with
    | kept before =>
      obtain ⟨known, dooms, obeys⟩ := orderly.tokens before
      exact ⟨known, orderly.dooms_taskStep kept step dooms, obeys⟩
    | began count _ _ member =>
      obtain rfl : _ = d.tokenController := (Option.some.inj member).symm
      have none : g'.cluster.Dooms none := fun _ _ same => nomatch same
      exact ⟨Option.none, none, d.tokens.tidy_pass _⟩
    | answered _ before _ served =>
      obtain ⟨known, dooms, obeys⟩ := orderly.tokens before
      rw [served]
      exact ⟨_, dooms.learn kept orderly.unique rfl, obeys.2 _ _ rfl⟩
    | told _ before =>
      obtain ⟨known, _, obeys⟩ := orderly.tokens before
      exact (obeys.1 : False).elim
    | resumed _ before same =>
      obtain ⟨known, dooms, obeys⟩ := orderly.tokens before
      rw [same]
      exact ⟨known, dooms, obeys.2 () known rfl⟩
  · cases step.working flight.fits busy with
    | kept before => exact orderly.bindings before
    | began count _ _ member =>
      obtain rfl : _ = d.bindingController := (Option.some.inj member).symm
      exact d.bindings.asks_pass _
    | answered _ before => exact (orderly.bindings before).2 _ () trivial
    | told _ before => exact (orderly.bindings before).2 _ () trivial
    | resumed _ before => exact (orderly.bindings before).2 _ () trivial
  · cases step.working flight.fits busy with
    | kept before still =>
      refine (orderly.updates before).mono fun token => orderly.names_taskStep kept.sound step ?_
      by_cases turn : j = id
      · exact .inr (still turn)
      · refine .inl fun ⟨since, resting, other⟩ => turn ?_
        have member : d.team[2]? = some d.updateController := rfl
        exact flight.single ⟨_, _, _, before⟩ ⟨_, since, resting, other⟩ member
    | began count _ _ member _ _ same =>
      obtain rfl : _ = d.updateController := (Option.some.inj member).symm
      exact .starts
    | answered _ before other served =>
      rw [served]
      exact (orderly.updates before).answered other
    | told _ before _ same =>
      obtain ⟨_, names, ends⟩ := (orderly.updates before).told
      rw [same, ends]
      exact .closes names
    | resumed _ before => exact absurd (orderly.updates before) UpdateDesk.Consuming.unrested

/-- Requests that leave data updates alone keep the works orderly. -/
theorem answer (orderly : Orderly g) (kept : g.cluster.Kept) (x : Chance) {r : Request}
    (spares : ∀ k, SparesUpdate k r) : Orderly (g.withCluster (g.cluster.answer x r).2) := by
  refine ⟨?_, orderly.gathers, fun busy => ?_, orderly.bindings, fun busy => ?_⟩
  · exact (draws_answer g.cluster x r).symm ▸ orderly.unique
  · obtain ⟨known, dooms, obeys⟩ := orderly.tokens busy
    exact ⟨known, dooms.answer kept orderly.unique x r, obeys⟩
  · exact (orderly.updates busy).mono fun token names => names.answer kept.sound x (spares _)

theorem clock (orderly : Orderly g) (now : Int64) :
    Orderly (g.withCluster { g.cluster with clock := now }) :=
  ⟨orderly.unique, orderly.gathers, orderly.tokens, orderly.bindings,
    fun busy => (orderly.updates busy).mono fun _ names => names⟩

end Orderly

/-- An operator's works are orderly at the start. -/
theorem Desks.orderly_start (d : Desks) {c : Cluster} (unique : Function.Injective c.tokens.draws.uid)
    (jitter : Nat → Jitter) :
    Orderly (Works.start d.operator c jitter).machine.core := by
  have launches (id : Nat) {t : Task} (here : (Works.start d.operator c jitter).machine.core.task id = t) :
      t = .launch [0, 1, 2] ∨ t = .finished := by
    rw [← here, d.start_task]
    split
    · exact .inl rfl
    · exact .inr rfl
  refine ⟨unique, fun {id i p again} gathers => ?_, fun busy => ?_, fun busy => ?_, fun busy => ?_⟩
  · rcases launches id rfl with here | here <;> (rw [here] at gathers; cases gathers)
  · rcases launches _ busy with here | here <;> cases here
  · rcases launches _ busy with here | here <;> cases here
  · rcases launches _ busy with here | here <;> cases here

end TokenSteward
