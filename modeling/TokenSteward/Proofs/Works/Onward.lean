import TokenSteward.Proofs.Works.Coming

/-! # How a pass goes on

A worker in the midst of a pass waits, has its request answered, tells a queue of a key, goes on after
a rest, or comes to the end of the pass. In the end the key comes up again if the pass is worth
another try.
-/

namespace TokenSteward.Controller

open TokenSteward.Cluster TokenSteward.Resource TokenSteward.Queue

/-- What becomes of a pass over a key while its worker is at turn. -/
inductive Onward (team : List Controller) (x : Chance) (id : Nat) (g g' : Core) (i : Nat) (k : Key) :
    Pass Action → Prop where
  | waits {p : Pass Action} {since : Nat} {resting : Option Nat}
      (here : g'.task id = .worker i (.busy k p since resting)) (same : g'.cluster = g.cluster) :
      Onward team x id g g' i k p
  | answered {r : Request} {next : r.Answer → Pass Action} {since : Nat}
      (here : g'.task id = .worker i (.busy k (next (g.cluster.answer x r).1) since none))
      (other : ∀ q k, r ≠ .enqueue q k) (served : g'.cluster = (g.cluster.answer x r).2) :
      Onward team x id g g' i k (.ask r next)
  | told {q since : Nat} {other : Key} {next : (Request.enqueue q other).Answer → Pass Action}
      (here : g'.task id = .worker i (.busy k (next ()) since none))
      (added : g'.queue = (g.file q ((g.queue q).add other).1).queue)
      (same : g'.cluster = g.cluster) : Onward team x id g g' i k (.ask (.enqueue q other) next)
  | resumed {since : Nat} {span : Time.Span} {next : (Request.pause span).Answer → Pass Action}
      (here : g'.task id = .worker i (.busy k (next ()) since none))
      (same : g'.cluster = g.cluster) : Onward team x id g g' i k (.ask (.pause span) next)
  | ended {p : Pass Action} {c : Controller} {result : Except Failure Action} {h : Core}
      (member : team[i]? = some c) (results : Results k p result)
      (follows : Follows c.queue k g result h)
      (after : g' = (h.file c.queue ((h.queue c.queue).done k).1).set id (.worker i .idle)) :
      Onward team x id g g' i k p

variable {team : List Controller} {x : Chance} {id i since : Nat} {g g' : Core} {k : Key}
  {p : Pass Action} {resting : Option Nat} {c : Controller}

/-- A worker that is at turn goes on with its pass. -/
theorem TaskStep.onward (step : TaskStep team x id g g') (member : team[i]? = some c)
    (busy : g.task id = .worker i (.busy k p since resting)) : Onward team x id g g' i k p := by
  have gathering {j : Nat} {p : Pass (List Key)} {again : Option (Pass (List Key)) → Task}
      (gathers : (g.task id).Gathers j p again) : False := by
    rw [busy] at gathers
    cases gathers
  cases step with
  | rests => exact .waits busy rfl
  | quits idle nobody =>
    rcases idle with ⟨due, here⟩ | ⟨work, here⟩
    · rw [busy] at here
      cases here
    · rw [busy] at here
      cases here
      rw [member] at nobody
      contradiction
  | gathered gathers => exact (gathering gathers).elim
  | scattered gathers => exact (gathering gathers).elim
  | gathering gathers => exact (gathering gathers).elim
  | asked here _ other =>
    rw [busy] at here
    cases here
    exact .answered (Core.set_task_self _ _ _) other rfl
  | told here =>
    rw [busy] at here
    cases here
    exact .told (Core.set_task_self _ _ _) rfl rfl
  | rested here =>
    rw [busy] at here
    cases here
    exact .waits (Core.set_task_self _ _ _) rfl
  | resumed here =>
    rw [busy] at here
    cases here
    exact .resumed (Core.set_task_self _ _ _) rfl
  | ended here member results follows =>
    rw [busy] at here
    cases here
    exact .ended member results follows rfl
  | _ here =>
    rw [busy] at here
    cases here

/-- A worker whose pass obeys a discipline goes on with one that does, or comes to an end that fits,
unless the deadline comes before. -/
theorem TaskStep.obeying (step : TaskStep team x id g g') (member : team[i]? = some c)
    (busy : g.task id = .worker i (.busy k p since resting)) {d : Discipline Unit}
    {ending : Except Failure Action → Prop} (obeys : p.Obeys d (fun _ => ending) ())
    (leads : ∀ r next, p = .ask r next → (g'.task id).isBusy = true →
      g'.cluster = (g.cluster.answer x r).2 → d.leads () r (g.cluster.answer x r).1 ()) :
    (∃ p' since' resting', g'.task id = .worker i (.busy k p' since' resting') ∧
        p'.Obeys d (fun _ => ending) ()) ∨
      ∃ result h, (ending result ∨ result = .error (.deadline k.text)) ∧
        Follows c.queue k g result h ∧
        g' = (h.file c.queue ((h.queue c.queue).done k).1).set id (.worker i .idle) := by
  cases step.onward member busy with
  | waits here => exact .inl ⟨_, _, _, here, obeys⟩
  | answered here _ served =>
    exact .inl ⟨_, _, _, here, obeys.2 _ () (leads _ _ rfl (here ▸ rfl) served)⟩
  | told here _ same =>
    exact .inl ⟨_, _, _, here, obeys.2 () () (leads _ _ rfl (here ▸ rfl) same)⟩
  | resumed here same =>
    exact .inl ⟨_, _, _, here, obeys.2 () () (leads _ _ rfl (here ▸ rfl) same)⟩
  | ended member' results follows after =>
    obtain rfl := Option.some.inj (member'.symm.trans member)
    refine .inr ⟨_, _, ?_, follows, after⟩
    cases results with
    | done a => exact .inl obeys
    | fail f => exact .inl obeys
    | late => exact .inr rfl

/-- A key that is added again comes up. -/
theorem Retried.coming {h : Core} (retried : Retried c.queue k g h)
    (inside : id < g.size) (opened : ∀ q, (g.queue q).closed = false) (there : c.queue < g.width)
    (listed : List Nat) (j : Key) (t : Task) :
    Coming c i ((h.file c.queue ((h.queue c.queue).done j).1).set id t) listed k := by
  have width : c.queue < h.width := retried.grows.width ▸ there
  cases retried with
  | atOnce =>
    left
    rw [Core.set_queue, Core.file_queue_self _ _ width, marked_done, Core.file_queue_self _ _ there,
      marked_add (opened c.queue)]
    simp
  | later delay =>
    refine .inr ⟨g.size, ?_⟩
    rw [Core.set_task_of_ne _ _ (Nat.ne_of_gt inside), Core.file_task, Core.push_task_self]
    exact .later

/-- A pass that fails and is worth another try lets its key come up again. -/
theorem Follows.coming {h : Core} {f : Failure} (follows : Follows c.queue k g (.error f) h)
    (worth : f.isRetryable = true) (going : ∀ t, f ≠ .cancelled t)
    (inside : id < g.size) (opened : ∀ q, (g.queue q).closed = false) (there : c.queue < g.width)
    (listed : List Nat) (j : Key) (t : Task) :
    Coming c i ((h.file c.queue ((h.queue c.queue).done j).1).set id t) listed k := by
  cases follows with
  | retried _ again => exact again.coming inside opened there listed j t
  | cancelled t => exact absurd rfl (going t)
  | dropped hopeless =>
    rw [worth] at hopeless
    contradiction

/-- A worker over a key goes on with its promise, or its key comes up again, or its pass has come to
an end, and the key is left alone. -/
theorem TaskStep.promised (step : TaskStep team x id g g') (member : team[i]? = some c)
    (busy : g.task id = .worker i (.busy k p since resting)) {d : Discipline Unit}
    {ending : Except Failure Action → Prop} (obeys : p.Obeys d (fun _ => ending) ())
    (leads : ∀ r next, p = .ask r next → (g'.task id).isBusy = true →
      g'.cluster = (g.cluster.answer x r).2 → d.leads () r (g.cluster.answer x r).1 ())
    (flight : Flight team g) (manned : Manned team g) (listed : List Nat) :
    (∃ p' since' resting', g'.task id = .worker i (.busy k p' since' resting') ∧
        p'.Obeys d (fun _ => ending) ()) ∨
      Coming c i g' listed k ∨ ending (.ok .await) ∨
      ∃ f, ending (.error f) ∧ ¬ (f.isRetryable = true ∧ ∀ t, f ≠ .cancelled t) := by
  have inside : id < g.size := Core.lt_size flight.fits (busy ▸ by simp)
  have there := manned.there member
  rcases step.obeying member busy obeys leads with still | ⟨result, h, ends, follows, rfl⟩
  · exact .inl still
  · right
    rcases result with f | _ | delay
    · cases follows with
      | retried _ again => exact .inl (again.coming inside flight.opened there _ _ _)
      | cancelled t =>
        have cancelled := ends.resolve_right fun late => nomatch late
        exact .inr (.inr ⟨_, cancelled, fun worth => worth.2 t rfl⟩)
      | dropped hopeless =>
        refine .inr (.inr ⟨f, ends.resolve_right fun late => ?_, fun worth => ?_⟩)
        · obtain rfl := Except.error.inj late
          contradiction
        · rw [worth.1] at hopeless
          contradiction
    · exact .inr (.inl (ends.resolve_right fun late => nomatch late))
    · cases follows with
      | requeued retried => exact .inl (retried.coming inside flight.opened there _ _ _)

end TokenSteward.Controller
