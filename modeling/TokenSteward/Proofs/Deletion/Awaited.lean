import TokenSteward.Proofs.Rest.Settled
import TokenSteward.Proofs.Works.Reached

/-! # Deletions that are not forgotten

As long as a token is to be deleted and a guard of the operator is still on it, someone is bound to
look at it again, without waiting for the listings that are made from time to time. A pass over such a
token has many ends: it finds the token blocked, it fails, its deadline comes, it takes off one guard
or both. Each of them has the key added again, at once or later, or has changed the token, so that the
follower of tokens is still to be told.
-/

namespace TokenSteward

open TokenSteward.Cluster TokenSteward.Resource TokenSteward.Secret TokenSteward.Controller Pass

/-! ## A pass while the token stays -/

/-- What is known while nothing changes the token at a key. -/
def untouched (k : Key) (v : Option AccessToken) : Discipline Unit where
  allows _ _ := True
  leads _ r answer _ := ∃ (c : Cluster) (x : Chance), c.Sound ∧ c.tokens.get? k = v ∧
    (c.answer x r).2.tokens.get? k = v ∧ answer = (c.answer x r).1

namespace TokenDesk

/-- No guard of the operator holds back the deletion of a token, if there is one that is to be
deleted. -/
def LetGo (v : Option AccessToken) : Prop := ∀ t, v = some t → t.isDeleting = true → isUnguarded t = true

/-- How a pass ends: the key is looked at again, or nothing is held back. -/
def Attends (v : Option AccessToken) : Except Failure Action → Prop
  | .ok .await => LetGo v
  | .ok (.requeue _) => True
  | .error f => LetGo v ∨ f.isRetryable = true ∧ ∀ t, f ≠ .cancelled t

variable {d : TokenDesk} {k : Key} {t : AccessToken} {v : Option AccessToken}

theorem attends_of_letGo (free : LetGo v) (result : Except Failure Action) : Attends v result := by
  rcases result with f | _ | delay
  · exact .inl free
  · exact free
  · trivial

theorem attends_store (f : StoreFailure) : Attends v (.error (.store f)) :=
  .inr ⟨rfl, fun _ same => nomatch same⟩

/-- If a token keeps its guards although the record is gone, and no binding blocks it, then none of the
operator's was on it. -/
theorem unguarded_of_kept {linked : List Binding}
    (same : (cleaned (unlinked t linked) (.ok ())).metadata.guards = t.metadata.guards)
    (unblocked : (t.metadata.hasGuard bindingsGuard && !linked.isEmpty) = false) :
    isUnguarded t = true := by
  have kept (guard : String) : (cleaned (unlinked t linked) (.ok ())).metadata.hasGuard guard =
      t.metadata.hasGuard guard := by
    simp only [Metadata.hasGuard, same]
  have unlinked_bare : (unlinked t linked).metadata.hasGuard bindingsGuard = false := by
    unfold unlinked
    split
    · simp [released, Metadata.hasGuard_removeGuard]
    · next held =>
      cases present : t.metadata.hasGuard bindingsGuard with
      | false => rfl
      | true => simp_all
  have bare (s : AccessToken) : (cleaned s (.ok ())).metadata.hasGuard secretGuard = false ∧
      (s.metadata.hasGuard bindingsGuard = false →
        (cleaned s (.ok ())).metadata.hasGuard bindingsGuard = false) := by
    simp only [cleaned]
    split
    · simp +contextual [released, Metadata.hasGuard_removeGuard]
    · next absent => exact ⟨by simpa using absent, id⟩
  rw [isUnguarded, ← kept bindingsGuard, ← kept secretGuard, (bare _).1,
    (bare _).2 unlinked_bare]
  rfl

/-- A pass that lets a token go has the key looked at again, unless the token had no guard of the
operator. -/
theorem attends_finalize (key : t.key = k) :
    (d.finalize t).Obeys (untouched k (some t)) (fun _ => Attends (some t)) () := by
  apply finalize_obeys d t (fun _ => trivial) attends_store
  · exact fun f => .inr ⟨rfl, fun _ same => nomatch same⟩
  rintro linked next rfl (kept | ⟨w, c, x, sound, before, after, said⟩)
  · split
    · trivial
    · next unblocked =>
      rintro _ ⟨⟩ _
      exact unguarded_of_kept kept (by simpa using unblocked)
  · -- a write that is answered would have changed the token
    have here : (cleaned (unlinked t linked) (.ok ())).key = k := by
      obtain ⟨guards, same, _⟩ := exists_guards_cleaned t linked (.ok ())
      rw [same]
      exact key
    subst here
    exact absurd (after.trans before.symm) (sound.changed_of_update said.symm)

/-- While the token at a key stays, a pass over the key has it looked at again, unless nothing is held
back. -/
theorem attends_pass : (d.pass k).Obeys (untouched k v) (fun _ => Attends v) () := by
  by_cases free : LetGo v
  · exact obeys_of_forall (fun _ _ => trivial) (fun _ => attends_of_letGo free) _ ()
  · rw [pass_eq]
    refine obeys_bind.mpr (obeys_tokens.mpr ⟨trivial, fun found _ ⟨c, x, sound, stored, _, said⟩ => ?_⟩)
    cases found with
    | error f => exact attends_store f
    | ok found =>
      obtain rfl : found = v := (token_of_read said).symm.trans stored
      cases found with
      | none => exact absurd (fun t none => nomatch none) free
      | some t =>
        have deleting : t.isDeleting = true := by
          by_contra alive
          exact free fun _ same deleting => absurd (Option.some.inj same ▸ deleting) alive
        change Obeys _ _ _ (if t.isDeleting = true then d.finalize t else _)
        rw [if_pos deleting]
        exact attends_finalize (sound.tokens.filed stored)

end TokenDesk

/-! ## What is bound to happen -/

/-- What is bound to have the token at a key looked at again, if its deletion is held back. -/
inductive Minded (d : Desks) (g : Core) (listed : List Nat) (k : Key) : Prop where
  | coming (coming : Coming d.tokenController 0 g listed k)
  | attended {id since : Nat} {p : Pass Action} {resting : Option Nat}
      (busy : g.task id = .worker 0 (.busy k p since resting))
      (obeys : p.Obeys (untouched k (g.cluster.tokens.get? k))
        (fun _ => TokenDesk.Attends (g.cluster.tokens.get? k)) ())
  | letGo (free : TokenDesk.LetGo (g.cluster.tokens.get? k))

namespace Minded

variable {d : Desks} {g g' : Core} {x : Chance} {id : Nat} {listed : List Nat} {k : Key}

/-- A worker over a key goes on with its promise as long as the token stays. In the end the key comes
up again, or nothing is held back. -/
theorem of_attended {since : Nat} {p : Pass Action} {resting : Option Nat}
    (busy : g.task id = .worker 0 (.busy k p since resting))
    (obeys : p.Obeys (untouched k (g.cluster.tokens.get? k))
      (fun _ => TokenDesk.Attends (g.cluster.tokens.get? k)) ())
    (step : TaskStep d.team x id g g') (flight : Flight d.team g) (manned : Manned d.team g)
    (sound : g.cluster.Sound) (same : g'.cluster.tokens.get? k = g.cluster.tokens.get? k) :
    Minded d g' (listedAfter listed id (g.task id)) k := by
  have first : d.team[0]? = some d.tokenController := rfl
  have leads : ∀ r next, p = .ask r next → (g'.task id).isBusy = true →
      g'.cluster = (g.cluster.answer x r).2 →
        (untouched k (g.cluster.tokens.get? k)).leads () r (g.cluster.answer x r).1 () := by
    intro r _ _ _ served
    rw [served] at same
    exact ⟨g.cluster, x, sound, rfl, same, rfl⟩
  rcases step.promised first busy obeys leads flight manned (listedAfter listed id (g.task id)) with
    ⟨p', since', resting', here, still⟩ | coming | free | ⟨f, ends, left⟩
  · rw [← same] at still
    exact .attended here still
  · exact .coming coming
  · refine .letGo ?_
    rw [same]
    exact free
  · refine .letGo ?_
    rw [same]
    exact ends.resolve_right left

/-- No step forgets a deletion. -/
theorem taskStep (minded : Minded d g listed k) (step : TaskStep d.team x id g g') (flight : Flight d.team g)
    (manned : Manned d.team g) (sound : g.cluster.Sound) (old : ∀ j ∈ listed, j < g.size)
    (watched : Watched d.tokenController 0 g (Source.tokens.published g.cluster))
    (calm : ReliesOn 0 listed id (g.task id) → x.refusal = none) :
    Minded d g' (listedAfter listed id (g.task id)) k := by
  have first : d.team[0]? = some d.tokenController := rfl
  by_cases same : g'.cluster.tokens.get? k = g.cluster.tokens.get? k
  swap
  · exact .coming (step.coming_of_differs flight.fits first sound watched same)
  cases minded with
  | coming coming =>
    rcases coming.taskStep step flight manned first sound old calm with still | begins | gone
    · exact .coming still
    · obtain ⟨count, now, here⟩ := begins.worker manned first
      exact .attended here TokenDesk.attends_pass
    · exact .letGo fun t here _ => absurd ⟨t, here⟩ gone
  | @attended j since p resting busy obeys =>
    by_cases turn : j = id
    · subst turn
      exact of_attended busy obeys step flight manned sound same
    · have there : g'.task j = .worker 0 (.busy k p since resting) := by
        rw [step.task_of_ne (Core.lt_size flight.fits (busy ▸ by simp)) turn]
        exact busy
      rw [← same] at obeys
      exact .attended there obeys
  | letGo free =>
    rw [← same] at free
    exact .letGo free

/-- Another's request forgets no deletion. -/
theorem answer (minded : Minded d g listed k) (sound : g.cluster.Sound) (x : Chance) (r : Request)
    (watched : Watched d.tokenController 0 g (Source.tokens.published g.cluster)) :
    Minded d (g.withCluster (g.cluster.answer x r).2) listed k := by
  by_cases same : (g.cluster.answer x r).2.tokens.get? k = g.cluster.tokens.get? k
  swap
  · refine .coming (Watched.coming (n := Source.tokens.published g.cluster) watched ?_)
    exact Source.told_next_answer sound (s := .tokens) same
  cases minded with
  | coming coming => exact .coming (coming.withCluster fun _ => Source.told_answer sound x r)
  | attended busy obeys =>
    rw [← same] at obeys
    exact .attended busy obeys
  | letGo free =>
    rw [← same] at free
    exact .letGo free

/-- The time of the cluster is no matter of deletions. -/
theorem clock (minded : Minded d g listed k) (now : Int64) :
    Minded d (g.withCluster { g.cluster with clock := now }) listed k := by
  cases minded with
  | coming coming => exact .coming (coming.withCluster fun _ told => told)
  | attended busy obeys => exact .attended busy obeys
  | letGo free => exact .letGo free

end Minded

namespace Works

variable {d : Desks} {w : Works}

/-- The key of a controller's object has been put up to be looked at: it waits, is handed out, is
added later, or is in a change of the object that the controller's follower has not told of yet. The
change may also be one that the follower has missed, and whose listing is still to come. -/
inductive Awaited (c : Controller) (i : Nat) (w : Works) (k : Key) : Prop where
  | waits (waits : k ∈ (w.machine.queue c.queue).queue.waiting)
  | handed (handed : (w.machine.queue c.queue).queue.processing.contains k = true)
  | delayed {id : Nat} {delay : Time.Span} {due : Option Nat}
      (adds : w.task id = .later c.queue k delay due)
  | untold {id seen n : Nat} {doing : Option (Pass (List Key))}
      (follows : w.task id = .watch i ⟨c.source, .own⟩ seen doing) (ahead : seen ≤ n)
      (about : c.source.told w.machine.cluster n = some k)
  | missed {id seen : Nat}
      (relists : w.task id = .watch i ⟨c.source, .own⟩ seen (some c.source.allKeys))
  | found {id seen : Nat} {keys : List Key}
      (tells : w.task id = .watch i ⟨c.source, .own⟩ seen (some (.done keys))) (among : k ∈ keys)

/-- A key that comes up is awaited once the first listing is made. -/
theorem HasListed.awaited {c : Controller} {i : Nat} {k : Key} (listed : w.HasListed i)
    (mindful : (w.machine.core.queue c.queue).Mindful)
    (opened : (w.machine.core.queue c.queue).closed = false)
    (coming : Coming c i w.machine.core w.listed k) : Awaited c i w k := by
  rcases coming with marked | ⟨id, brings⟩
  · exact (mindful.place opened marked).elim .waits .handed
  · have past : (w.machine.core.task id).isPastListing i w.listed id = true := by
      by_cases inside : id < w.machine.tasks.size
      · exact listed id inside
      · rw [w.machine.fits_core id (Nat.not_lt.mp inside)]
        rfl
    generalize here : w.machine.core.task id = t at brings past
    have unlisted (first : id ∉ w.listed) (past : (i != i || w.listed.contains id) = true) : False := by
      simp only [bne_self_eq_false, Bool.false_or, List.contains_eq_mem, decide_eq_true_eq] at past
      exact first past
    cases brings with
    | launch member => simp [Task.isPastListing, member] at past
    | later => exact .delayed here
    | unseen ahead about => exact .untold here ahead about
    | relists => exact .missed here
    | holds among => exact .found here among
    | unlisted first => exact (unlisted first past).elim
    | lists first => exact (unlisted first past).elim
    | found first => exact (unlisted first past).elim

/-- Whatever happens on the way, no deletion is forgotten. -/
theorem Reached.minded {first : Works} (reached : Reached 0 first w) (begins : Running d.team first)
    {k : Key} (minded : Minded d first.machine.core first.listed k) :
    Minded d w.machine.core w.listed k := by
  induction reached with
  | start => exact minded
  | @turn w reached word t lists ih =>
    have running := reached.running begins
    have sound := running.kept.sound
    have watched : Watched d.tokenController 0 w.machine.core
        (Source.tokens.published w.machine.cluster) := running.watched (i := 0) rfl
    cases t with
    | task id refusal outage =>
      exact ih.taskStep (Machine.taskStep_turn running.staffed running.flight.opened id _) running.flight
        running.manned sound running.old watched lists
    | late id =>
      simp only [Works.after]
      rcases late_cases running id .quiet with same | ⟨_, kept, step, _⟩
      · rwa [same]
      · have after := ih.taskStep step running.flight running.manned sound running.old watched fun _ => rfl
        have kept : listedAfter w.listed id (w.machine.core.task id) = w.listed := kept
        rwa [kept] at after
    | writer j refusal outage =>
      simp only [Works.after]
      split
      · exact ih.answer sound _ _ watched
      · exact ih
    | outside r => exact ih.answer sound .quiet r watched
    | clock now => exact ih.clock now
    | _ => exact ih

/-- A token that is to be deleted and has a guard of the operator is awaited at any time after the
first listing of tokens, in whatever order things happen and whatever fails, as long as the listings
are answered that the controller of tokens relies on. -/
theorem awaited_of_deleting (d : Desks) {outset : Cluster.Outset} {before : Cluster}
    (later : (Cluster.empty outset).Later before) (jitter : Nat → Jitter)
    (reached : Reached 0 (start d.operator before jitter) w) (listed : w.HasListed 0) {k : Key}
    {t : AccessToken} (stored : w.machine.cluster.tokens.get? k = some t)
    (deleting : t.isDeleting = true)
    (guarded : t.metadata.hasGuard bindingsGuard = true ∨ t.metadata.hasGuard secretGuard = true) :
    Awaited d.tokenController 0 w k := by
  have kept := (Cluster.kept_empty outset).later later
  have begins := d.running_start jitter kept
  have empty (q : Nat) : ((start d.operator before jitter).machine.core.queue q).Mindful := by
    rw [Desks.start_queue]
    exact Queue.mindful_empty
  have minded := reached.minded begins (k := k) (.coming (.inr ⟨0, by
    rw [d.start_task]
    exact .launch (by simp)⟩))
  have flight := (reached.running begins).flight
  cases minded with
  | coming coming =>
    exact listed.awaited (reached.mindful begins empty _) (flight.opened _) coming
  | attended busy => exact .handed (flight.held ⟨_, _, _, busy⟩ (i := 0) rfl)
  | letGo free =>
    have bare := free t stored deleting
    simp only [TokenDesk.isUnguarded, Bool.and_eq_true, Bool.not_eq_true'] at bare
    rcases guarded with present | present
    · rw [bare.1] at present
      contradiction
    · rw [bare.2] at present
      contradiction

/-- The guards are put on a token, and then the deadline of the pass comes. Its deletion is requested,
the next pass finds no binding, its record cannot be deleted, and it takes off the one guard. -/
def halfDeleted : Works :=
  run agreeable fewWorks
    (.outside (.tokens (.create restingToken)) :: tasksTurn [0, 3, 3, 3, 4, 4, 4] ++
      .late 4 :: .outside (.tokens (.delete restingToken.key)) :: tasksTurn [2, 2, 2, 2, 4, 4, 4] ++
      [.task 4 none (some (.backend "out of reach")), .task 4 none none, .task 4 none none])

theorem awaited_of_deleting_halfDeleted :
    ∃ t ∈ halfDeleted.machine.cluster.tokens.get? restingToken.key,
      t.isDeleting = true ∧ t.metadata.guards = [secretGuard] ∧
        (halfDeleted.machine.queue 1).queue.Idle ∧
        Awaited fewDesks.tokenController 0 halfDeleted restingToken.key := by
  obtain ⟨t, stored, deleting, guards⟩ :
      ∃ t ∈ halfDeleted.machine.cluster.tokens.get? restingToken.key,
        t.isDeleting = true ∧ t.metadata.guards = [secretGuard] := by decide +kernel
  have reached : Reached 0 fewWorks halfDeleted := .run .start agreeable _ (by decide +kernel)
  have listed : halfDeleted.HasListed 0 := by decide +kernel
  have guarded : t.metadata.hasGuard secretGuard = true := by
    rw [Metadata.hasGuard, guards]
    decide
  refine ⟨t, stored, deleting, guards, by decide +kernel, ?_⟩
  exact awaited_of_deleting fewDesks .now _ reached listed stored deleting (.inr guarded)

end Works

end TokenSteward
