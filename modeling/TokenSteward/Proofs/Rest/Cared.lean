import TokenSteward.Proofs.Rest.Triggered
import TokenSteward.Proofs.Rest.Writers

/-! # Tokens that are cared for

At every point of a run, for each key one of a few things holds: the key comes up for the tokens'
controller, a worker is over it that has not missed anything, a data update is bound to be told of
that names it, a writer has still to announce its record, a writer has failed, or nothing is left to
do. Every turn keeps this: what the status of a token depends on is changed only together with the
token itself, which is seen, or by a writer, who announces it.
-/

namespace TokenSteward

open TokenSteward.Cluster TokenSteward.Resource TokenSteward.Provider TokenSteward.Controller

/-- What is bound to bring the status of the token at a key to what is implied. -/
inductive Cared (d : Desks) (word : Word) (g : Core) (listed : List Nat) (writers : List (Pass Unit))
    (k : Key) : Prop where
  | coming (coming : Coming d.tokenController 0 g listed k)
  | promised {id since : Nat} {p : Pass Action} {resting : Option Nat}
      (busy : g.task id = .worker 0 (.busy k p since resting))
      (obeys : p.Obeys (steady word k (g.cluster.view k))
        (fun _ => d.tokens.Promised word (g.cluster.view k)) ())
  | triggered {uk : Key} (triggered : Triggered d g listed uk k)
  | announcing {owner : AccessToken} (key : owner.key = k) (announces : Announced.announce owner ∈ writers)
  | failed {f : Failure} (fails : .fail f ∈ writers)
  | settled (settled : d.tokens.Settled word (g.cluster.view k))

namespace Controller

/-- What a task asks for when it is at turn. -/
def Task.request? : Task → Option Request
  | .watch _ _ _ (some (.ask r _)) | .resync _ _ (some (.ask r _)) | .worker _ (.busy _ (.ask r _) _ _) =>
    some r
  | _ => none

end Controller

namespace Cared

variable {d : Desks} {word : Word} {g g' : Core} {x : Chance} {id : Nat} {listed : List Nat}
  {writers : List (Pass Unit)} {k : Key}

/-- A worker over a key goes on with its promise, as long as the view of the token stays. -/
theorem of_promised {since : Nat} {p : Pass Action} {resting : Option Nat}
    (busy : g.task id = .worker 0 (.busy k p since resting))
    (obeys : p.Obeys (steady word k (g.cluster.view k))
      (fun _ => d.tokens.Promised word (g.cluster.view k)) ())
    (step : TaskStep d.team x id g g') (flight : Flight d.team g) (manned : Manned d.team g)
    (sound : g.cluster.Sound) (spoken : x.word = word)
    (passing : (g'.task id).isBusy = true → ∀ r, (g.task id).request? = some r → unrefused word r = true)
    (same : g'.cluster.view k = g.cluster.view k) :
    Cared d word g' (listedAfter listed id (g.task id)) writers k := by
  have first : d.team[0]? = some d.tokenController := rfl
  have leads : ∀ r next, p = .ask r next → (g'.task id).isBusy = true →
      g'.cluster = (g.cluster.answer x r).2 →
        (steady word k (g.cluster.view k)).leads () r (g.cluster.answer x r).1 () := by
    rintro r next rfl going served
    rw [served] at same
    exact ⟨passing going r (by rw [busy]; rfl), g.cluster, x, sound, spoken, rfl, same, rfl⟩
  rcases step.promised first busy obeys leads flight manned (listedAfter listed id (g.task id)) with
    ⟨p', since', resting', here, still⟩ | coming | settled | ⟨f, ends, left⟩
  · rw [← same] at still
    exact .promised here still
  · exact .coming coming
  · refine .settled ?_
    rw [same]
    exact settled
  · exact absurd ends left

/-- Every step keeps a token cared for. -/
theorem taskStep (cared : Cared d word g listed writers k) (step : TaskStep d.team x id g g')
    (orderly : Orderly g) (flight : Flight d.team g) (manned : Manned d.team g) (kept : g.cluster.Kept)
    (old : ∀ j ∈ listed, j < g.size)
    (watched : Watched d.tokenController 0 g (Source.tokens.published g.cluster))
    (spoken : x.word = word) (calm : MustList listed id (g.task id) → x.refusal = none)
    (passing : (g'.task id).isBusy = true → ∀ r, (g.task id).request? = some r → unrefused word r = true) :
    Cared d word g' (listedAfter listed id (g.task id)) writers k := by
  have first : d.team[0]? = some d.tokenController := rfl
  by_cases same : g'.cluster.view k = g.cluster.view k
  swap
  · -- the view changes only with the token, and the follower of tokens is told
    refine .coming (step.coming_of_differs flight.fits first kept.sound watched fun tokens => same ?_)
    rcases step.cluster_cases with equal | ⟨r, asking, served⟩
    · rw [equal]
    · rw [served] at tokens ⊢
      exact orderly.view_of_asking kept asking tokens
  cases cared with
  | coming coming =>
    rcases coming.taskStep step flight manned first kept.sound old
        fun relies => calm relies.mustList with still | begins | gone
    · exact .coming still
    · obtain ⟨count, now, here⟩ := begins.worker manned first
      exact .promised here TokenDesk.promised_pass
    · refine .settled ?_
      have absent : g'.cluster.tokens.get? k = none := by
        rw [Option.eq_none_iff_forall_ne_some]
        exact fun t here => gone ⟨t, here⟩
      rw [Cluster.view, absent]
      trivial
  | @promised j since p resting busy obeys =>
    by_cases turn : j = id
    · subst turn
      exact of_promised busy obeys step flight manned kept.sound spoken passing same
    · have there : g'.task j = .worker 0 (.busy k p since resting) := by
        rw [step.task_of_ne (Core.lt_size flight.fits (busy ▸ by simp)) turn]
        exact busy
      rw [← same] at obeys
      exact .promised there obeys
  | triggered triggered =>
    rcases triggered.taskStep step orderly flight manned kept.sound old calm with still | coming
    · exact .triggered still
    · exact .coming coming
  | announcing key announces => exact .announcing key announces
  | failed fails => exact .failed fails
  | settled settled =>
    rw [← same] at settled
    exact .settled settled

/-- Another's request that leaves data updates alone keeps a token cared for, if it changes the view
only with the token. -/
theorem answer (cared : Cared d word g listed writers k) (sound : g.cluster.Sound) {r : Request}
    (spares : ∀ k, SparesUpdate k r)
    (watched : Watched d.tokenController 0 g (Source.tokens.published g.cluster))
    (seen : (g.cluster.answer x r).2.tokens.get? k = g.cluster.tokens.get? k →
      (g.cluster.answer x r).2.view k = g.cluster.view k) :
    Cared d word (g.withCluster (g.cluster.answer x r).2) listed writers k := by
  by_cases tokens : (g.cluster.answer x r).2.tokens.get? k = g.cluster.tokens.get? k
  swap
  · refine .coming (Watched.coming (n := Source.tokens.published g.cluster) watched ?_)
    exact Source.told_next_answer sound (s := .tokens) tokens
  have same := seen tokens
  cases cared with
  | coming coming => exact .coming (coming.withCluster fun _ => Source.told_answer sound x r)
  | promised busy obeys =>
    rw [← same] at obeys
    exact .promised busy obeys
  | triggered triggered => exact .triggered (triggered.answer sound x (spares _))
  | announcing key announces => exact .announcing key announces
  | failed fails => exact .failed fails
  | settled settled =>
    rw [← same] at settled
    exact .settled settled

/-- The time of the cluster is no matter of care. -/
theorem clock (cared : Cared d word g listed writers k) (now : Int64) :
    Cared d word (g.withCluster { g.cluster with clock := now }) listed writers k := by
  cases cared with
  | coming coming => exact .coming (coming.withCluster fun _ told => told)
  | promised busy obeys => exact .promised busy obeys
  | triggered triggered =>
    exact .triggered ⟨triggered.names, triggered.untold, triggered.wakes.imp_left fun coming =>
      coming.withCluster fun _ told => told⟩
  | announcing key announces => exact .announcing key announces
  | failed fails => exact .failed fails
  | settled settled => exact .settled settled

/-- What a token is cared for by is still there if writers come or go on, but not those that have
something to announce or have failed. -/
theorem of_writers (cared : Cared d word g listed writers k) {others : List (Pass Unit)}
    (announcing : ∀ owner, Announced.announce owner ∈ writers → owner.key = k →
      Announced.announce owner ∈ others ∨ Cared d word g listed others k)
    (failed : ∀ f, .fail f ∈ writers → .fail f ∈ others) : Cared d word g listed others k := by
  cases cared with
  | coming coming => exact .coming coming
  | promised busy obeys => exact .promised busy obeys
  | triggered triggered => exact .triggered triggered
  | announcing key announces =>
    rcases announcing _ announces key with still | cared
    · exact .announcing key still
    · exact cared
  | failed fails => exact .failed (failed _ fails)
  | settled settled => exact .settled settled

end Cared

end TokenSteward
