import TokenSteward.Proofs.Mirror.Couples
import TokenSteward.Proofs.Rest.Desks
import TokenSteward.Proofs.Works.Onward

/-! # Bindings that are heeded

At every point of a run, for each key of a binding one of a few things holds: the key comes up for the
bindings' controller, the controller's follower of tokens is bound to bring it up, a worker is over it
that has not missed anything, or the status mirrors the token. The follower of tokens goes by the
links that it finds written, so a token that changes before it is linked goes by unheeded. But then
the link is still to be written, and the binding changes with it, so that its own follower is told.
-/

namespace TokenSteward

open TokenSteward.Cluster TokenSteward.Resource TokenSteward.Queue TokenSteward.Controller

namespace Controller

/-- A listing that a controller makes to start with, or that one of its followers makes. -/
def ListsFor (i : Nat) (listed : List Nat) (id : Nat) : Task → Prop
  | .resync j _ (some (.ask _ _)) => j = i ∧ id ∉ listed
  | .watch j _ _ (some (.ask _ _)) => j = i
  | _ => False

theorem ReliesOn.listsFor {i id : Nat} {listed : List Nat} {t : Task} (relies : ReliesOn i listed id t) :
    ListsFor i listed id t := by
  unfold ReliesOn at relies
  split at relies
  · exact relies
  · exact relies.1
  · exact relies.elim

/-- A task follows tokens for a controller, and is bound to bring up the key of a binding: it has not
seen yet that the token has changed that the binding is linked to, or gathers the keys of the bindings
that are linked to it. -/
inductive Relays (i : Nat) (g : Core) (k : Key) : Task → Prop where
  | unseen {seen n : Nat} {doing : Option (Pass (List Key))} {b : Binding} {j : Key}
      (stored : g.cluster.bindings.get? k = some b) (link : Binding.linkedKey? b = some j)
      (ahead : seen ≤ n) (about : Source.tokens.told g.cluster n = some j) :
      Relays i g k (.watch i ⟨.tokens, .dependents⟩ seen doing)
  | gathers {seen : Nat} {p : Pass (List Key)}
      (obeys : p.Obeys (listing k (g.cluster.couple k)) (fun _ => Gains k True) ()) :
      Relays i g k (.watch i ⟨.tokens, .dependents⟩ seen (some p))

variable {team : List Controller} {c : Controller} {i id : Nat} {x : Chance} {g g' : Core}
  {listed : List Nat} {k : Key}

theorem Relays.mono {t : Task} (relays : Relays i g k t)
    (same : g'.cluster.couple k = g.cluster.couple k)
    (told : ∀ n j, Source.tokens.told g.cluster n = some j → Source.tokens.told g'.cluster n = some j) :
    Relays i g' k t := by
  cases relays with
  | unseen stored link ahead about =>
    rw [← binding_of_couple same] at stored
    exact .unseen stored link ahead (told _ _ about)
  | gathers obeys =>
    rw [← same] at obeys
    exact .gathers obeys

/-- A follower of tokens that sees a change gathers the binding's key if the change is of its token,
and else has that one still ahead. -/
theorem Relays.sighted {w : Watch} {j seen later : Nat} {e : Change} {b : Binding} {t : AccessToken}
    (relays : Relays i g k (.watch j w seen none)) (here : g.cluster.couple k = some (b, some t))
    (sees : w.source.follow g.cluster seen = (.change e, later)) :
    Relays i g k (.watch j w later (some (w.mapper.keys e))) := by
  cases relays with
  | @unseen _ n _ b' j' stored link ahead about =>
    rcases g.cluster.tokens.follow_cases seen with ⟨e', sees', first⟩ | ⟨_, _, sees', _⟩ | ⟨sees', _⟩
    · simp only [Source.follow, sees', Prod.mk.injEq, Sighting.change.injEq] at sees
      obtain ⟨rfl, rfl⟩ := sees
      by_cases now : n = seen
      · subst now
        have same : e'.object.key = j' := Option.some.inj (first.symm.trans about)
        apply Relays.gathers
        rw [here]
        obtain rfl : b' = b := Option.some.inj (stored.symm.trans (couple_eq_some.mp here).1)
        refine (gains_dependentKeys e'.object.key link).mono fun _ result gains => ?_
        cases result with
        | error f => exact gains
        | ok keys => exact fun _ => gains same
      · exact .unseen stored link (by omega) about
    · simp [Source.follow, sees'] at sees
    · simp [Source.follow, sees'] at sees

/-- A follower of tokens that has gathered keys has marked the binding's, or has a change of its token
still ahead. -/
theorem Relays.gathered {t : Task} {j : Nat} {keys : List Key} {c' : Controller}
    {again : Option (Pass (List Key)) → Task} (relays : Relays i g k t)
    (gathers : t.Gathers j (.done keys) again) (opened : ∀ q, (g.queue q).closed = false)
    (there : c.queue < g.width) (member : team[i]? = some c) (member' : team[j]? = some c') :
    Relays i g k (again none) ∨
      (((g.set id (again none)).file c'.queue ((g.queue c'.queue).addAll keys)).queue
        c.queue).marked.contains k = true := by
  cases gathers with
  | watch j w seen =>
    cases relays with
    | unseen stored link ahead about => exact .inl (.unseen stored link ahead about)
    | gathers obeys =>
      obtain rfl := Option.some.inj (member'.symm.trans member)
      exact .inr (marked_file opened there (obeys trivial))
  | resync => cases relays

/-- A follower of tokens that gathers in vain has a change of the binding's token still ahead. -/
theorem Relays.scattered {t : Task} {j : Nat} {p : Pass (List Key)}
    {again : Option (Pass (List Key)) → Task} (relays : Relays i g k t) (gathers : t.Gathers j p again)
    (vain : team[j]? = none ∨ ∃ f, p = .fail f) (member : team[i]? = some c) :
    Relays i g k (again none) := by
  cases gathers with
  | watch j w seen =>
    cases relays with
    | unseen stored link ahead about => exact .unseen stored link ahead about
    | gathers obeys =>
      rcases vain with nobody | ⟨f, rfl⟩
      · rw [member] at nobody
        contradiction
      · exact obeys.elim
  | resync => cases relays

/-- A listing that is answered is one of those that have the follower gather the binding's key. -/
theorem Relays.gathering {t : Task} {j : Nat} {r : Request} {next : r.Answer → Pass (List Key)}
    {again : Option (Pass (List Key)) → Task} (relays : Relays i g k t)
    (gathers : t.Gathers j (.ask r next) again) (sound : g.cluster.Sound)
    (calm : ListsFor i listed id t → x.refusal = none) :
    Relays i g k (again (some (next (g.cluster.answer x r).1))) := by
  cases gathers with
  | watch j w seen =>
    cases relays with
    | unseen stored link ahead about => exact .unseen stored link ahead about
    | gathers obeys => exact .gathers (obeys.2 _ () ⟨g.cluster, x, sound, calm rfl, rfl, rfl⟩)
  | resync => cases relays

/-- What becomes of the key of a binding that the task at turn was bound to bring up. -/
theorem Relays.turn {b : Binding} {t : AccessToken} (relays : Relays i g k (g.task id))
    (step : TaskStep team x id g g') (opened : ∀ q, (g.queue q).closed = false) (there : c.queue < g.width)
    (member : team[i]? = some c) (sound : g.cluster.Sound)
    (here : g.cluster.couple k = some (b, some t)) (same : g'.cluster.couple k = g.cluster.couple k)
    (calm : ListsFor i listed id (g.task id) → x.refusal = none) :
    Relays i g' k (g'.task id) ∨ (g'.queue c.queue).marked.contains k = true := by
  have told : ∀ n j, Source.tokens.told g.cluster n = some j → Source.tokens.told g'.cluster n = some j :=
    fun _ _ told => step.told_kept sound told
  cases step with
  | rests => exact .inl relays
  | quits idle =>
    rcases idle with ⟨_, other⟩ | ⟨_, other⟩ <;> (rw [other] at relays; cases relays)
  | sighted looks sees =>
    rw [looks] at relays
    rw [Core.set_task_self]
    exact .inl ((relays.sighted here sees).mono same told)
  | missed looks sees =>
    rw [looks] at relays
    rw [Core.set_task_self]
    cases relays with
    | unseen =>
      -- the change may be among those that are missed, but the token is still there to be listed
      refine .inl (.gathers ?_)
      rw [same, here]
      exact gains_relist
  | gathered gathers member' =>
    rw [Core.file_task, Core.set_task_self]
    exact (relays.gathered gathers opened there member member').imp_left fun still => still.mono same told
  | scattered gathers vain =>
    rw [Core.set_task_self]
    exact .inl ((relays.scattered gathers vain member).mono same told)
  | gathering gathers =>
    rw [Core.set_task_self]
    exact .inl ((relays.gathering gathers sound calm).mono same told)
  | _ other =>
    rw [other] at relays
    cases relays

end Controller

/-- What is bound to have the status of the binding at a key mirror its token. -/
inductive Heeded (d : Desks) (g : Core) (listed : List Nat) (k : Key) : Prop where
  | coming (coming : Coming d.bindingController 1 g listed k)
  | relayed (id : Nat) (relays : Relays 1 g k (g.task id))
  | promised {id since : Nat} {p : Pass Action} {resting : Option Nat}
      (busy : g.task id = .worker 1 (.busy k p since resting))
      (obeys : p.Obeys (BindingDesk.lasting k (g.cluster.couple k))
        (fun _ => d.bindings.Reflects (g.cluster.couple k)) ())
  | mirrors (mirrors : d.bindings.Mirrors (g.cluster.couple k))

namespace Heeded

variable {d : Desks} {g g' : Core} {x : Chance} {id : Nat} {listed : List Nat} {k : Key}

/-- A change of a binding or of its token is bound to bring up the binding's key. -/
theorem of_differs {r : Request} (sound : g.cluster.Sound)
    (served : g'.cluster = (g.cluster.answer x r).2)
    (watched : Watched d.bindingController 1 g' (Source.bindings.published g.cluster))
    (hears : Hears ⟨.tokens, .dependents⟩ 1 g' (Source.tokens.published g.cluster))
    (differs : g'.cluster.couple k ≠ g.cluster.couple k) : Heeded d g' listed k := by
  rw [served] at differs
  rcases differs_of_couple differs with binding | ⟨b, j, stored, link, token⟩
  · refine .coming (Watched.coming watched ?_)
    rw [served]
    exact Source.told_next_answer sound (s := .bindings) binding
  · have told : Source.tokens.told g'.cluster (Source.tokens.published g.cluster) = some j := by
      rw [served]
      exact Source.told_next_answer sound (s := .tokens) token
    rcases hears with ⟨m, all, here, member⟩ | ⟨m, seen, doing, here, le⟩
    · exact .coming (Brings.coming (.launch member) here)
    · rw [← served] at stored
      refine .relayed m ?_
      rw [here]
      exact .unseen stored link le told

/-- A worker over a key goes on with its promise as long as neither the binding nor its token changes.
In the end the key comes up again, or the status mirrors the token. -/
theorem of_promised {since : Nat} {p : Pass Action} {resting : Option Nat}
    (busy : g.task id = .worker 1 (.busy k p since resting))
    (obeys : p.Obeys (BindingDesk.lasting k (g.cluster.couple k))
      (fun _ => d.bindings.Reflects (g.cluster.couple k)) ())
    (step : TaskStep d.team x id g g') (flight : Flight d.team g) (manned : Manned d.team g)
    (sound : g.cluster.Sound) (same : g'.cluster.couple k = g.cluster.couple k) :
    Heeded d g' (listedAfter listed id (g.task id)) k := by
  have member : d.team[1]? = some d.bindingController := rfl
  have leads : ∀ r next, p = .ask r next → (g'.task id).isBusy = true →
      g'.cluster = (g.cluster.answer x r).2 →
        (BindingDesk.lasting k (g.cluster.couple k)).leads () r (g.cluster.answer x r).1 () := by
    intro r _ _ _ served
    rw [served] at same
    exact ⟨g.cluster, x, sound, rfl, same, rfl⟩
  rcases step.promised member busy obeys leads flight manned (listedAfter listed id (g.task id)) with
    ⟨p', since', resting', here, still⟩ | coming | mirrors | ⟨f, ends, left⟩
  · rw [← same] at still
    exact .promised here still
  · exact .coming coming
  · refine .mirrors ?_
    rw [same]
    exact mirrors
  · refine .mirrors ?_
    rw [same]
    exact ends.resolve_right left

/-- Every step keeps a binding heeded. -/
theorem taskStep (heeded : Heeded d g listed k) (step : TaskStep d.team x id g g') (flight : Flight d.team g)
    (manned : Manned d.team g) (sound : g.cluster.Sound) (old : ∀ j ∈ listed, j < g.size)
    (watched : Watched d.bindingController 1 g (Source.bindings.published g.cluster))
    (hears : Hears ⟨.tokens, .dependents⟩ 1 g (Source.tokens.published g.cluster))
    (calm : ListsFor 1 listed id (g.task id) → x.refusal = none) :
    Heeded d g' (listedAfter listed id (g.task id)) k := by
  have member : d.team[1]? = some d.bindingController := rfl
  -- a change of the binding or of its token is told of; besides, only what held before is to be kept
  by_cases same : g'.cluster.couple k = g.cluster.couple k
  swap
  · rcases step.cluster_cases with equal | ⟨r, _, served⟩
    · rw [equal] at same
      contradiction
    · exact of_differs sound served (watched.taskStep step flight.fits member)
        (hears.taskStep step flight.fits member (List.mem_append_left _ (List.mem_singleton_self _))) same
  by_cases mirrors : d.bindings.Mirrors (g.cluster.couple k)
  · rw [← same] at mirrors
    exact .mirrors mirrors
  obtain ⟨b, t, here⟩ := BindingDesk.exists_of_not_mirrors mirrors
  have inside {j : Nat} {task : Task} (there : g.task j = task) (other : task ≠ .finished) : j < g.size :=
    Core.lt_size flight.fits (there ▸ other)
  cases heeded with
  | coming coming =>
    rcases coming.taskStep step flight manned member sound old fun relies => calm relies.listsFor with
      still | begins | gone
    · exact .coming still
    · obtain ⟨count, now, busy⟩ := begins.worker manned member
      exact .promised busy BindingDesk.reflects_pass
    · have stored := (couple_eq_some.mp here).1
      rw [← binding_of_couple same] at stored
      exact absurd ⟨b, stored⟩ gone
  | relayed j relays =>
    by_cases turn : j = id
    · subst turn
      rcases relays.turn step flight.opened (manned.there member) member sound here same calm with
        still | marked
      · exact .relayed j still
      · exact .coming (.inl marked)
    · have there : g'.task j = g.task j := by
        refine step.task_of_ne (inside rfl fun none => ?_) turn
        rw [none] at relays
        cases relays
      refine .relayed j ?_
      rw [there]
      exact relays.mono same fun _ _ told => step.told_kept sound told
  | @promised j since p resting busy obeys =>
    by_cases turn : j = id
    · subst turn
      exact of_promised busy obeys step flight manned sound same
    · have there := (step.task_of_ne (inside busy (by simp)) turn).trans busy
      rw [← same] at obeys
      exact .promised there obeys
  | mirrors settled => exact absurd settled mirrors

/-- Another's request keeps a binding heeded. -/
theorem answer (heeded : Heeded d g listed k) (sound : g.cluster.Sound) (x : Chance) (r : Request)
    (watched : Watched d.bindingController 1 g (Source.bindings.published g.cluster))
    (hears : Hears ⟨.tokens, .dependents⟩ 1 g (Source.tokens.published g.cluster)) :
    Heeded d (g.withCluster (g.cluster.answer x r).2) listed k := by
  by_cases same : (g.cluster.answer x r).2.couple k = g.cluster.couple k
  swap
  · exact of_differs sound rfl watched hears same
  cases heeded with
  | coming coming => exact .coming (coming.withCluster fun _ => Source.told_answer sound x r)
  | relayed j relays =>
    exact .relayed j (relays.mono same fun _ _ => Source.told_answer sound x r)
  | promised busy obeys =>
    rw [← same] at obeys
    exact .promised busy obeys
  | mirrors mirrors =>
    rw [← same] at mirrors
    exact .mirrors mirrors

/-- The time of the cluster is no matter of bindings. -/
theorem clock (heeded : Heeded d g listed k) (now : Int64) :
    Heeded d (g.withCluster { g.cluster with clock := now }) listed k := by
  cases heeded with
  | coming coming => exact .coming (coming.withCluster fun _ told => told)
  | relayed j relays => exact .relayed j (relays.mono rfl fun _ _ told => told)
  | promised busy obeys => exact .promised busy obeys
  | mirrors mirrors => exact .mirrors mirrors

end Heeded

end TokenSteward
