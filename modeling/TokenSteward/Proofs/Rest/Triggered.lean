import TokenSteward.Proofs.Rest.Orderly
import TokenSteward.Proofs.Works.Onward

/-! # Data updates that are not forgotten

A data update is bound to be told of as long as it is there and nobody has told of it: its key comes
up, or a worker is over it. Whoever tells of it lets the token that it names come up, and nobody
deletes it before that.
-/

namespace TokenSteward

open TokenSteward.Cluster TokenSteward.Resource TokenSteward.Controller

/-- Someone is bound to tell of a data update. -/
structure Triggered (d : Desks) (g : Core) (listed : List Nat) (k token : Key) : Prop where
  names : g.cluster.Names k token
  untold : ∀ id, ¬ Closes g id k
  wakes : Coming d.updateController 2 g listed k ∨ ∃ id since p resting,
    g.task id = .worker 2 (.busy k p since resting) ∧ Desks.updates.Early k token p

theorem Cluster.Names.unique {c : Cluster} {k token other : Key} (names : c.Names k token)
    (also_ : c.Names k other) : token = other := by
  obtain ⟨u, here, rfl⟩ := names
  obtain ⟨v, there, rfl⟩ := also_
  rw [Option.some.inj (here.symm.trans there)]

variable {d : Desks} {g g' : Core} {x : Chance} {id : Nat} {listed : List Nat} {k token : Key}

/-- Who has come to the end of a pass over a data update was there before, or has just told of the
token. -/
theorem Orderly.closes_taskStep (orderly : Orderly g) (fits : g.Fits) (step : TaskStep d.team x id g g')
    {j : Nat} (closes : Closes g' j k) : Closes g j k ∨ ∃ token, g.cluster.Names k token ∧
      g'.queue = (g.file 1 ((g.queue 1).add token).1).queue := by
  obtain ⟨since, resting, busy⟩ := closes
  have working := step.working fits busy
  generalize ends : UpdateDesk.closing k = p at working
  cases working with
  | kept before =>
    subst ends
    exact .inl ⟨_, _, before⟩
  | began count _ _ member =>
    obtain rfl : _ = d.updateController := (Option.some.inj member).symm
    exact absurd ends.symm UpdateDesk.pass_ne_closing
  | answered _ before other =>
    exact absurd ends.symm ((orderly.updates before).answered_ne_closing other _)
  | told _ before added =>
    obtain ⟨rfl, names, _⟩ := (orderly.updates before).told
    exact .inr ⟨_, names, added⟩
  | resumed _ before => exact absurd (orderly.updates before) UpdateDesk.Consuming.unrested

/-- A pass that has not told yet ends, if it does, with a failure that is worth another try. -/
theorem UpdateDesk.Early.results {desk : UpdateDesk} {p : Pass Action} {result : Except Failure Action}
    (early : desk.Early k token p) (results : Results k p result) :
    ∃ f, result = .error f ∧ f.isRetryable = true ∧ ∀ t, f ≠ .cancelled t := by
  cases results with
  | done a =>
    exfalso
    generalize ends : Pass.done a = p at early
    cases early with
    | starts => rw [UpdateDesk.pass_eq] at ends; cases ends
    | _ => cases ends
  | fail f =>
    generalize ends : Pass.fail f = p at early
    cases early with
    | starts => rw [UpdateDesk.pass_eq] at ends; cases ends
    | tells => cases ends
    | failed => cases ends; exact ⟨_, rfl, rfl, fun _ same => nomatch same⟩
  | late => exact ⟨_, rfl, rfl, fun _ same => nomatch same⟩

/-- A worker that is over a data update and has not told of it goes on so, or the data update comes up
again. -/
theorem Orderly.wakes_turn (orderly : Orderly g) (step : TaskStep d.team x id g g')
    (flight : Flight d.team g) (manned : Manned d.team g) (names : g.cluster.Names k token)
    (unclosed : ∀ j, ¬ Closes g' j k) {since : Nat} {p : Pass Action} {resting : Option Nat}
    (busy : g.task id = .worker 2 (.busy k p since resting)) (early : Desks.updates.Early k token p) :
    Coming d.updateController 2 g' (listedAfter listed id (g.task id)) k ∨ ∃ since p resting,
      g'.task id = .worker 2 (.busy k p since resting) ∧ Desks.updates.Early k token p := by
  have third : d.team[2]? = some d.updateController := rfl
  have inside : id < g.size := Core.lt_size flight.fits (busy ▸ by simp)
  cases step.onward third busy with
  | waits here => exact .inr ⟨_, _, _, here, early⟩
  | answered here other => exact .inr ⟨_, _, _, here, early.answered names other⟩
  | told here =>
    obtain ⟨_, _, ends⟩ := (orderly.updates busy).told
    rw [ends] at here
    exact absurd ⟨_, _, here⟩ (unclosed id)
  | resumed => exact absurd (orderly.updates busy) UpdateDesk.Consuming.unrested
  | @ended _ c result h member results follows after =>
    obtain rfl : c = d.updateController := (Option.some.inj member).symm
    obtain ⟨f, rfl, worth, going⟩ := early.results results
    left
    rw [after]
    exact follows.coming worth going inside flight.opened (manned.there third) _ _ _

/-- A data update that nobody has told of stays bound to be told of, until its token comes up. -/
theorem Triggered.taskStep (triggered : Triggered d g listed k token) (step : TaskStep d.team x id g g')
    (orderly : Orderly g) (flight : Flight d.team g) (manned : Manned d.team g)
    (sound : g.cluster.Sound) (old : ∀ j ∈ listed, j < g.size)
    (calm : MustList listed id (g.task id) → x.refusal = none) :
    Triggered d g' (listedAfter listed id (g.task id)) k token ∨
      Coming d.tokenController 0 g' (listedAfter listed id (g.task id)) token := by
  obtain ⟨names, untold, wakes⟩ := triggered
  have names' := orderly.names_taskStep sound step (.inl (untold id)) names
  have third : d.team[2]? = some d.updateController := rfl
  by_cases closes : ∃ j, Closes g' j k
  · obtain ⟨j, closes⟩ := closes
    rcases orderly.closes_taskStep flight.fits step closes with before | ⟨other, names₂, added⟩
    · exact absurd before (untold j)
    · refine .inr (.inl ?_)
      have first : d.team[0]? = some d.tokenController := rfl
      have there : 1 < g.width := manned.there first
      change (g'.queue 1).marked.contains token = true
      rw [added, Core.file_queue_self _ _ there, Queue.marked_add (flight.opened 1),
        names.unique names₂]
      simp
  refine .inl ⟨names', fun j here => closes ⟨j, here⟩, ?_⟩
  rcases wakes with coming | ⟨j, since, p, resting, busy, early⟩
  · rcases coming.taskStep step flight manned third sound old
      fun relies => calm relies.mustList with kept | begins | gone
    · exact .inl kept
    · obtain ⟨count, now, here⟩ := begins.worker manned third
      exact .inr ⟨id, now, _, none, here, .starts⟩
    · obtain ⟨u, here, _⟩ := names'
      exact absurd ⟨u, here⟩ gone
  by_cases turn : j = id
  · subst turn
    rcases orderly.wakes_turn step flight manned names (fun j here => closes ⟨j, here⟩) busy early with
      coming | onward
    · exact .inl coming
    · exact .inr ⟨j, onward⟩
  · refine .inr ⟨j, since, p, resting, ?_, early⟩
    rw [step.task_of_ne (Core.lt_size flight.fits (busy ▸ by simp)) turn]
    exact busy

/-- Requests that leave data updates alone leave one bound to be told of. -/
theorem Triggered.answer (triggered : Triggered d g listed k token) (sound : g.cluster.Sound)
    (x : Chance) {r : Request} (spares : SparesUpdate k r) :
    Triggered d (g.withCluster (g.cluster.answer x r).2) listed k token :=
  ⟨triggered.names.answer sound x spares, triggered.untold,
    triggered.wakes.imp_left fun coming => coming.withCluster fun _ => Source.told_answer sound x r⟩

/-- A new data update is bound to be told of. -/
theorem Triggered.created (orderly : Orderly g) (sound : g.cluster.Sound) {r : Request}
    (absent : g.cluster.updates.get? k = none) (names : (g.cluster.answer x r).2.Names k token)
    (watched : Watched d.updateController 2 g (Source.updates.published g.cluster)) :
    Triggered d (g.withCluster (g.cluster.answer x r).2) listed k token := by
  refine ⟨names, fun id ⟨since, resting, busy⟩ => ?_, .inl ?_⟩
  · have consuming := orderly.updates busy
    generalize ends : UpdateDesk.closing k = p at consuming
    cases consuming with
    | starts => exact UpdateDesk.pass_ne_closing ends.symm
    | closes names =>
      obtain ⟨u, here, _⟩ := names
      rw [here] at absent
      contradiction
    | _ => cases ends
  · obtain ⟨u, here, _⟩ := names
    refine Watched.coming (n := Source.updates.published g.cluster) watched ?_
    apply Source.told_next_answer sound (s := .updates)
    change (g.cluster.answer x r).2.updates.get? k ≠ _
    rw [here, absent]
    exact fun same => nomatch same

end TokenSteward
