import TokenSteward.Proofs.Works.Flight

/-! # Keys that are coming up

A key is coming up for a controller if it is marked in the queue, or if some task is bound to put it
there: one that adds it later, one that follows the controller's own objects and has not told of an
event about the key yet, or one that has still to list everything for the first time. A key that is
coming up stays so until a worker begins with it, as long as something lies at it, and each change
of what lies at a key lets the key come up.
-/

namespace TokenSteward.Controller

open TokenSteward.Cluster TokenSteward.Resource TokenSteward.Queue

/-- A task is bound to put a key into the queue of a controller, unless nothing lies at it. The
first listings that have been brought in are known by their tasks. -/
inductive Brings (c : Controller) (i : Nat) (g : Core) (listed : List Nat) (k : Key) (id : Nat) :
    Task → Prop where
  | launch {all : List Nat} (member : i ∈ all) : Brings c i g listed k id (.launch all)
  | later {delay : Time.Span} {due : Option Nat} : Brings c i g listed k id (.later c.queue k delay due)
  | unseen {seen n : Nat} {doing : Option (Pass (List Key))} (ahead : seen ≤ n)
      (about : c.source.told g.cluster n = some k) :
      Brings c i g listed k id (.watch i ⟨c.source, .own⟩ seen doing)
  | relists {seen : Nat} :
      Brings c i g listed k id (.watch i ⟨c.source, .own⟩ seen (some c.source.allKeys))
  | holds {seen : Nat} {keys : List Key} (among : k ∈ keys) :
      Brings c i g listed k id (.watch i ⟨c.source, .own⟩ seen (some (.done keys)))
  | unlisted {due : Nat} (first : id ∉ listed) : Brings c i g listed k id (.resync i due none)
  | lists {due : Nat} (first : id ∉ listed) :
      Brings c i g listed k id (.resync i due (some c.source.allKeys))
  | found {due : Nat} {keys : List Key} (first : id ∉ listed) (among : k ∈ keys) :
      Brings c i g listed k id (.resync i due (some (.done keys)))

/-- A key is coming up for a controller. -/
def Coming (c : Controller) (i : Nat) (g : Core) (listed : List Nat) (k : Key) : Prop :=
  (g.queue c.queue).marked.contains k = true ∨ ∃ id, Brings c i g listed k id (g.task id)

/-- A controller has yet to start, or follows a store and has seen no more than a number of its
changes. -/
def Hears (w : Watch) (i : Nat) (g : Core) (n : Nat) : Prop :=
  (∃ id all, g.task id = .launch all ∧ i ∈ all) ∨
    ∃ id seen doing, g.task id = .watch i w seen doing ∧ seen ≤ n

/-- A controller has yet to start, or follows its own objects and has seen no more than a number of
their changes. -/
def Watched (c : Controller) (i : Nat) (g : Core) (n : Nat) : Prop :=
  Hears ⟨c.source, .own⟩ i g n

/-- The first listings that have been brought in after a task was at turn. -/
def listedAfter (listed : List Nat) (id : Nat) (t : Task) : List Nat :=
  if t.bringsIn then id :: listed else listed

/-- A listing of a task must not fail: it is the first of its controller, or one for a follower of
the controller's own objects. -/
def MustList (listed : List Nat) (id : Nat) : Task → Prop
  | .resync _ _ (some _) => id ∉ listed
  | .watch _ w _ (some _) => w.mapper = .own
  | _ => False

/-- A task is about to make a listing that a controller relies on: its first one, or that of what the
follower of its own objects has missed. -/
def ReliesOn (i : Nat) (listed : List Nat) (id : Nat) : Task → Prop
  | .resync j _ (some (.ask _ _)) => j = i ∧ id ∉ listed
  | .watch j w _ (some (.ask _ _)) => j = i ∧ w.mapper = .own
  | _ => False

theorem ReliesOn.mustList {i id : Nat} {listed : List Nat} {t : Task} (relies : ReliesOn i listed id t) :
    MustList listed id t := by
  unfold ReliesOn at relies
  split at relies
  · exact relies.2
  · exact relies.2
  · exact relies.elim

variable {c : Controller} {i id : Nat} {g g' : Core} {listed listed' : List Nat} {k : Key}

theorem Brings.mono {t : Task} (brings : Brings c i g listed k id t)
    (told : ∀ n, c.source.told g.cluster n = some k → c.source.told g'.cluster n = some k)
    (same : id ∈ listed' → id ∈ listed) : Brings c i g' listed' k id t := by
  cases brings with
  | launch member => exact .launch member
  | later => exact .later
  | unseen ahead about => exact .unseen ahead (told _ about)
  | relists => exact .relists
  | holds among => exact .holds among
  | unlisted first => exact .unlisted fun present => first (same present)
  | lists first => exact .lists fun present => first (same present)
  | found first among => exact .found (fun present => first (same present)) among

/-- A change of the cluster alone leaves the keys that are coming up. -/
theorem Coming.withCluster (coming : Coming c i g listed k) {cl : Cluster}
    (told : ∀ n, c.source.told g.cluster n = some k → c.source.told cl n = some k) :
    Coming c i (g.withCluster cl) listed k := by
  rcases coming with marked | ⟨id, brings⟩
  · exact .inl marked
  · exact .inr ⟨id, brings.mono told fun present => present⟩

theorem Hears.mono {w : Watch} {n m : Nat} (hears : Hears w i g n) (le : n ≤ m) : Hears w i g m :=
  hears.imp_right fun ⟨id, seen, doing, here, bound⟩ =>
    ⟨id, seen, doing, here, Nat.le_trans bound le⟩

/-- An event under the next number about a key lets the key come up. -/
theorem Watched.coming {n : Nat} (watched : Watched c i g n)
    (told : c.source.told g.cluster n = some k) : Coming c i g listed k := by
  rcases watched with ⟨id, all, here, member⟩ | ⟨id, seen, doing, here, le⟩
  · refine .inr ⟨id, ?_⟩
    rw [here]
    exact .launch member
  · refine .inr ⟨id, ?_⟩
    rw [here]
    exact .unseen le told

variable {team : List Controller} {x : Chance}

theorem TaskStep.told_kept (step : TaskStep team x id g g') (sound : g.cluster.Sound) {s : Source} {n : Nat}
    (told : s.told g.cluster n = some k) : s.told g'.cluster n = some k := by
  rcases step.cluster_cases with same | ⟨r, _, served⟩
  · rwa [same]
  · rw [served]
    exact Source.told_answer sound x r told

theorem TaskStep.published_le (step : TaskStep team x id g g') (sound : g.cluster.Sound) (s : Source) :
    s.published g.cluster ≤ s.published g'.cluster := by
  rcases step.cluster_cases with same | ⟨r, _, served⟩
  · exact Nat.le_of_eq (congrArg s.published same.symm)
  · rw [served]
    exact Source.published_answer_le sound x r

theorem mem_partsOfAll {cl : Cluster} {now : Nat} {all : List Nat} (started : i ∈ all)
    (member : team[i]? = some c) {t : Task} (part : t ∈ parts cl now i c) :
    t ∈ partsOfAll team cl now all := by
  refine List.mem_flatMap.mpr ⟨i, started, ?_⟩
  rw [member]
  exact part

/-- What a pass over all keys of a store has come to: the keys of all that is there. -/
theorem listed_of_answer {s : Source} {r : Request} {next : r.Answer → Pass (List Key)}
    (lists : s.allKeys = .ask r next) {cl : Cluster} (sound : cl.Sound) (calm : x.refusal = none) :
    (cl.answer x r).2 = cl ∧
      ∃ keys, next (cl.answer x r).1 = .done keys ∧ ∀ k, s.Holds cl k → k ∈ keys := by
  obtain ⟨r', next', same, lists', brings⟩ := s.allKeys_eq
  rw [lists] at same
  cases same
  exact ⟨lists'.answer cl x, brings cl x sound calm⟩

theorem allKeys_ne_done {s : Source} {keys : List Key} : s.allKeys ≠ .done keys := by
  obtain ⟨r, next, same, _⟩ := s.allKeys_eq
  rw [same]
  exact fun equal => by contradiction

theorem allKeys_ne_fail {s : Source} {f : Failure} : s.allKeys ≠ .fail f := by
  obtain ⟨r, next, same, _⟩ := s.allKeys_eq
  rw [same]
  exact fun equal => by contradiction

/-- A task in the midst of a pass that gathers keys follows a store, or lists it. -/
theorem Task.Gathers.cases {t : Task} {p : Pass (List Key)}
    {again : Option (Pass (List Key)) → Task} (gathers : t.Gathers i p again) :
    (∃ w seen, t = .watch i w seen (some p) ∧ again = .watch i w seen) ∨
      ∃ due, t = .resync i due (some p) ∧ again = .resync i due := by
  cases gathers with
  | watch => exact .inl ⟨_, _, rfl, rfl⟩
  | resync => exact .inr ⟨_, rfl, rfl⟩

/-- A pass that gathers keys is bound to bring one. -/
def Gathering (s : Source) (k : Key) (p : Pass (List Key)) : Prop :=
  p = s.allKeys ∨ ∃ keys, p = .done keys ∧ k ∈ keys

theorem Brings.of_watch {j seen : Nat} {w : Watch} {p : Pass (List Key)}
    (brings : Brings c i g listed k id (.watch j w seen (some p))) :
    j = i ∧ w = ⟨c.source, .own⟩ ∧
      ((∃ n, seen ≤ n ∧ c.source.told g.cluster n = some k) ∨ Gathering c.source k p) := by
  cases brings with
  | unseen ahead about => exact ⟨rfl, rfl, .inl ⟨_, ahead, about⟩⟩
  | relists => exact ⟨rfl, rfl, .inr (.inl rfl)⟩
  | holds among => exact ⟨rfl, rfl, .inr (.inr ⟨_, rfl, among⟩)⟩

theorem Brings.of_resync {j due : Nat} {p : Pass (List Key)}
    (brings : Brings c i g listed k id (.resync j due (some p))) :
    j = i ∧ id ∉ listed ∧ Gathering c.source k p := by
  cases brings with
  | lists first => exact ⟨rfl, first, .inl rfl⟩
  | found first among => exact ⟨rfl, first, .inr ⟨_, rfl, among⟩⟩

/-- A key that a task is bound to bring is coming up. -/
theorem Brings.coming {t : Task} (brings : Brings c i g listed k id t) (here : g.task id = t) :
    Coming c i g listed k := by
  subst here
  exact .inr ⟨id, brings⟩

/-- What is told to a queue is marked in it. -/
theorem marked_file (opened : ∀ q, (g.queue q).closed = false) (there : c.queue < g.width)
    {t : Task} {keys : List Key} (among : k ∈ keys) :
    (((g.set id t).file c.queue ((g.queue c.queue).addAll keys)).queue c.queue).marked.contains k =
      true := by
  have inside : c.queue < (g.set id t).width := there
  rw [Core.file_queue_self _ _ inside, marked_addAll (opened c.queue)]
  simp [among]

/-! ## What becomes of a key that the task at turn was bound to bring -/

/-- A task that starts the controller has its resync list everything. -/
theorem Brings.launched {all : List Nat} (brings : Brings c i g listed k id (.launch all))
    (launches : g.task id = .launch all) (fits : g.Fits) (member : team[i]? = some c)
    (old : ∀ j ∈ listed, j < g.size) (now : Nat) :
    Coming c i ((g.pushAll (partsOfAll team g.cluster now all)).set id (.supervise all)) listed k := by
  cases brings with
  | launch started =>
    have new : Task.resync i now none ∈ partsOfAll team g.cluster now all :=
      mem_partsOfAll started member (by simp [parts])
    obtain ⟨j, beyond, here⟩ := Core.exists_pushAll_task (g := g) new
    have inside : id < g.size := Core.lt_size fits (launches ▸ by simp)
    have fresh : j ∉ listed := by
      intro present
      have early := old j present
      omega
    apply Brings.coming (.unlisted fresh)
    rw [Core.set_task_of_ne _ _ (by omega), here]

/-- A follower that sees a change holds its key, or has the change that it was bound to tell of
still ahead. -/
theorem Brings.sighted {j seen later : Nat} {w : Watch} {e : Change}
    (brings : Brings c i g listed k id (.watch j w seen none))
    (sees : w.source.follow g.cluster seen = (.change e, later)) :
    Coming c i (g.set id (.watch j w later (some (w.mapper.keys e)))) listed k := by
  cases brings with
  | @unseen _ n _ ahead about =>
    refine Brings.coming ?_ (Core.set_task_self _ _ _)
    rcases c.source.follow_cases g.cluster seen with ⟨e', sees', first⟩ | ⟨_, sees', _⟩ | ⟨sees', _⟩
    · rw [sees'] at sees
      cases sees
      by_cases now : n = seen
      · subst now
        rw [first] at about
        exact .holds (by rw [← Option.some.inj about]; exact List.mem_singleton_self _)
      · exact .unseen (by omega) about
    · rw [sees'] at sees
      cases sees
    · rw [sees'] at sees
      cases sees

/-- Keys that were gathered are marked, and what a follower has not seen yet is still ahead. -/
theorem Brings.gathered {t : Task} {j : Nat} {keys : List Key} {c' : Controller}
    {again : Option (Pass (List Key)) → Task} (brings : Brings c i g listed k id t)
    (gathers : t.Gathers j (.done keys) again) (opened : ∀ q, (g.queue q).closed = false)
    (there : c.queue < g.width) (member : team[i]? = some c) (member' : team[j]? = some c') :
    Coming c i ((g.set id (again none)).file c'.queue ((g.queue c'.queue).addAll keys)) listed' k := by
  have brought (same : j = i) (gathering : Gathering c.source k (.done keys)) :
      Coming c i ((g.set id (again none)).file c'.queue ((g.queue c'.queue).addAll keys))
        listed' k := by
    subst same
    obtain rfl := Option.some.inj (member'.symm.trans member)
    rcases gathering with all | ⟨_, done, among⟩
    · exact absurd all.symm allKeys_ne_done
    · cases done
      exact .inl (marked_file opened there among)
  rcases gathers.cases with ⟨w, seen, rfl, rfl⟩ | ⟨due, rfl, rfl⟩
  · obtain ⟨rfl, rfl, ⟨n, ahead, about⟩ | gathering⟩ := brings.of_watch
    · have here := Core.set_task_self g id (.watch j ⟨c.source, .own⟩ seen none)
      exact Brings.coming (.unseen ahead about) here
    · exact brought rfl gathering
  · obtain ⟨rfl, _, gathering⟩ := brings.of_resync
    exact brought rfl gathering

/-- A pass that gathers in vain was not bound to bring a key: that is ahead of its follower. -/
theorem Brings.scattered {t : Task} {j : Nat} {p : Pass (List Key)}
    {again : Option (Pass (List Key)) → Task} (brings : Brings c i g listed k id t)
    (gathers : t.Gathers j p again) (vain : team[j]? = none ∨ ∃ f, p = .fail f)
    (member : team[i]? = some c) : Coming c i (g.set id (again none)) listed' k := by
  have empty (same : j = i) : ¬ Gathering c.source k p := by
    subst same
    rcases vain with nobody | ⟨f, rfl⟩
    · rw [member] at nobody
      contradiction
    · rintro (all | ⟨keys, done, _⟩)
      · exact allKeys_ne_fail all.symm
      · contradiction
  rcases gathers.cases with ⟨w, seen, rfl, rfl⟩ | ⟨due, rfl, rfl⟩
  · obtain ⟨rfl, rfl, ⟨n, ahead, about⟩ | gathering⟩ := brings.of_watch
    · exact Brings.coming (.unseen ahead about) (Core.set_task_self _ _ _)
    · exact absurd gathering (empty rfl)
  · obtain ⟨rfl, _, gathering⟩ := brings.of_resync
    exact absurd gathering (empty rfl)

/-- A listing that is answered holds the keys of all that is there. -/
theorem Brings.gathering {t : Task} {j : Nat} {r : Request} {next : r.Answer → Pass (List Key)}
    {again : Option (Pass (List Key)) → Task} (brings : Brings c i g listed k id t)
    (gathers : t.Gathers j (.ask r next) again) (sound : g.cluster.Sound)
    (calm : ReliesOn i listed id t → x.refusal = none) :
    Coming c i ((g.withCluster (g.cluster.answer x r).2).set id
        (again (some (next (g.cluster.answer x r).1)))) listed k ∨
      ¬ c.source.Holds (g.cluster.answer x r).2 k := by
  have brought (relies : ReliesOn i listed id t) (gathering : Gathering c.source k (.ask r next)) :
      Gathering c.source k (next (g.cluster.answer x r).1) ∨
        ¬ c.source.Holds (g.cluster.answer x r).2 k := by
    rcases gathering with all | ⟨keys, done, _⟩
    · obtain ⟨same, keys, done, every⟩ := listed_of_answer all.symm sound (calm relies)
      rw [same]
      by_cases here : c.source.Holds g.cluster k
      · exact .inl (.inr ⟨keys, done, every k here⟩)
      · exact .inr here
    · contradiction
  rcases gathers.cases with ⟨w, seen, rfl, rfl⟩ | ⟨due, rfl, rfl⟩
  · obtain ⟨rfl, rfl, ⟨n, ahead, about⟩ | gathering⟩ := brings.of_watch
    · have later := Source.told_answer sound x r about
      exact .inl (Brings.coming (.unseen ahead later) (Core.set_task_self _ _ _))
    · rcases brought ⟨rfl, rfl⟩ gathering with (same | ⟨keys, same, among⟩) | gone
      · rw [same]
        exact .inl (Brings.coming .relists (Core.set_task_self _ _ _))
      · rw [same]
        exact .inl (Brings.coming (.holds among) (Core.set_task_self _ _ _))
      · exact .inr gone
  · obtain ⟨rfl, first, gathering⟩ := brings.of_resync
    rcases brought ⟨rfl, first⟩ gathering with (same | ⟨keys, same, among⟩) | gone
    · rw [same]
      exact .inl (Brings.coming (.lists first) (Core.set_task_self _ _ _))
    · rw [same]
      exact .inl (Brings.coming (.found first among) (Core.set_task_self _ _ _))
    · exact .inr gone

/-- Who asks for a listing does not bring it in yet. -/
theorem Task.Gathers.bringsIn_ask {t : Task} {j : Nat} {r : Request}
    {next : r.Answer → Pass (List Key)} {again : Option (Pass (List Key)) → Task}
    (gathers : t.Gathers j (.ask r next) again) : t.bringsIn = false := by
  cases gathers <;> rfl

/-- What becomes of a key that the task at turn was bound to bring. -/
theorem Brings.turn (brings : Brings c i g listed k id (g.task id)) (step : TaskStep team x id g g')
    (fits : g.Fits) (opened : ∀ q, (g.queue q).closed = false) (there : c.queue < g.width)
    (member : team[i]? = some c) (sound : g.cluster.Sound) (old : ∀ j ∈ listed, j < g.size)
    (calm : ReliesOn i listed id (g.task id) → x.refusal = none) :
    Coming c i g' (listedAfter listed id (g.task id)) k ∨ ¬ c.source.Holds g'.cluster k := by
  cases step with
  | rests waits =>
    rw [listedAfter, waits]
    exact .inl (.inr ⟨id, brings⟩)
  | quits idle nobody =>
    rcases idle with ⟨due, here⟩ | ⟨work, here⟩
    · rw [here] at brings
      cases brings
      rw [member] at nobody
      contradiction
    · rw [here] at brings
      cases brings
  | launched launches now =>
    rw [launches] at brings ⊢
    exact .inl (brings.launched launches fits member old now)
  | sighted looks sees =>
    rw [looks] at brings ⊢
    exact .inl (brings.sighted sees)
  | missed looks sees =>
    rw [looks] at brings ⊢
    cases brings with
    | unseen =>
      rw [Watch.relist_own]
      exact .inl (Brings.coming .relists (Core.set_task_self _ _ _))
  | began waits member' later =>
    rw [waits] at brings ⊢
    cases brings with
    | unlisted first =>
      obtain rfl := Option.some.inj (member'.symm.trans member)
      exact .inl (Brings.coming (.lists first) (Core.set_task_self _ _ _))
  | gathered gathers member' => exact .inl (brings.gathered gathers opened there member member')
  | scattered gathers vain => exact .inl (brings.scattered gathers vain member)
  | gathering gathers =>
    rw [listedAfter, gathers.bringsIn_ask]
    exact brings.gathering gathers sound calm
  | took busy | asked busy | told busy | rested busy | resumed busy | ended busy | handed busy =>
    -- a worker and a getter bring no key
    rw [busy] at brings
    cases brings
  | delayed waits due =>
    rw [waits] at brings ⊢
    cases brings with
    | later => exact .inl (Brings.coming .later (Core.set_task_self _ _ _))
  | added waits =>
    rw [waits] at brings ⊢
    cases brings with
    | later =>
      have among : k ∈ [k] := List.mem_singleton_self k
      exact .inl (.inl (marked_file opened there among))

/-- A key that is coming up stays so, unless a worker begins with it or nothing lies at it. -/
theorem Coming.taskStep (coming : Coming c i g listed k) (step : TaskStep team x id g g')
    (flight : Flight team g) (manned : Manned team g) (member : team[i]? = some c)
    (sound : g.cluster.Sound) (old : ∀ j ∈ listed, j < g.size)
    (calm : ReliesOn i listed id (g.task id) → x.refusal = none) :
    Coming c i g' (listedAfter listed id (g.task id)) k ∨ TaskStep.Begins team g g' c.queue k id ∨
      ¬ c.source.Holds g'.cluster k := by
  rcases coming with marked | ⟨j, brings⟩
  · rcases step.marked flight.opened marked with kept | begins | takes
    · exact .inl (.inl kept)
    · exact .inr (.inl begins)
    · exact absurd takes (manned.alone id c.queue)
  · by_cases turn : j = id
    · subst turn
      exact (brings.turn step flight.fits flight.opened (manned.there member) member sound old
        calm).imp_right .inr
    · refine .inl (.inr ⟨j, ?_⟩)
      have there : j < g.size := by
        apply Core.lt_size flight.fits
        intro none
        rw [none] at brings
        cases brings
      rw [step.task_of_ne there turn]
      refine brings.mono (fun n => step.told_kept sound) fun present => ?_
      unfold listedAfter at present
      split at present
      · exact (List.mem_cons.mp present).resolve_left turn
      · exact present

/-- A task that starts controllers starts them, and nothing else. -/
theorem TaskStep.launch_turn (step : TaskStep team x id g g') {all : List Nat}
    (here : g.task id = .launch all) : g' = g ∨ ∃ now,
      g' = (g.pushAll (partsOfAll team g.cluster now all)).set id (.supervise all) := by
  cases step with
  | rests => exact .inl rfl
  | quits idle => rcases idle with ⟨_, other⟩ | ⟨_, other⟩ <;> (rw [here] at other; cases other)
  | launched launches now =>
    rw [here] at launches
    cases launches
    exact .inr ⟨now, rfl⟩
  | _ other =>
    rw [here] at other
    cases other

/-- A task that follows a store goes on with it, and sees no more than there is. -/
theorem TaskStep.watch_turn (step : TaskStep team x id g g') {w : Watch} {seen : Nat}
    {doing : Option (Pass (List Key))} (here : g.task id = .watch i w seen doing) :
    ∃ later doing', g'.task id = .watch i w later doing' ∧
      (later = seen ∨ later ≤ w.source.published g.cluster) := by
  have gathers_eq {j : Nat} {p : Pass (List Key)} {again : Option (Pass (List Key)) → Task}
      (gathers : (g.task id).Gathers j p again) : again = .watch i w seen := by
    rw [here] at gathers
    cases gathers
    rfl
  cases step with
  | rests => exact ⟨seen, doing, here, .inl rfl⟩
  | quits idle => rcases idle with ⟨_, other⟩ | ⟨_, other⟩ <;> (rw [here] at other; cases other)
  | @sighted i' seen' later w' e looks sees =>
    rw [here] at looks
    cases looks
    refine ⟨later, _, Core.set_task_self _ _ _, .inr ?_⟩
    rcases w.source.follow_cases g.cluster seen with ⟨e', sees', told⟩ | ⟨_, sees', _⟩ | ⟨sees', _⟩
    · rw [sees'] at sees
      cases sees
      exact Source.lt_published_of_told told
    · rw [sees'] at sees
      cases sees
    · rw [sees'] at sees
      cases sees
  | @missed i' seen' later w' looks sees =>
    rw [here] at looks
    cases looks
    refine ⟨later, _, Core.set_task_self _ _ _, .inr ?_⟩
    rcases w.source.follow_cases g.cluster seen with ⟨_, sees', _⟩ | ⟨_, sees', le⟩ | ⟨sees', _⟩
    · rw [sees'] at sees
      cases sees
    · rw [sees'] at sees
      cases sees
      exact le
    · rw [sees'] at sees
      cases sees
  | gathered gathers =>
    obtain rfl := gathers_eq gathers
    exact ⟨seen, none, Core.set_task_self _ _ _, .inl rfl⟩
  | scattered gathers =>
    obtain rfl := gathers_eq gathers
    exact ⟨seen, none, Core.set_task_self _ _ _, .inl rfl⟩
  | gathering gathers =>
    obtain rfl := gathers_eq gathers
    exact ⟨seen, _, Core.set_task_self _ _ _, .inl rfl⟩
  | _ other =>
    rw [here] at other
    cases other

/-- Who follows a store goes on with it, and has seen no more than there was. -/
theorem Hears.taskStep {w : Watch} (hears : Hears w i g (w.source.published g.cluster))
    (step : TaskStep team x id g g') (fits : g.Fits) (member : team[i]? = some c)
    (among : w ∈ c.watches ++ [⟨c.source, .own⟩]) : Hears w i g' (w.source.published g.cluster) := by
  have inside {j : Nat} {t : Task} (here : g.task j = t) (other : t ≠ .finished) : j < g.size :=
    Core.lt_size fits (here ▸ other)
  rcases hears with ⟨j, all, here, started⟩ | ⟨j, seen, doing, here, le⟩
  · by_cases turn : j = id
    · subst turn
      rcases step.launch_turn here with rfl | ⟨now, rfl⟩
      · exact .inl ⟨j, all, here, started⟩
      · have part : Task.watch i w (w.source.published g.cluster) none ∈ parts g.cluster now i c :=
          List.mem_append_left _ (List.mem_map_of_mem among)
        have new : Task.watch i w (w.source.published g.cluster) none ∈
            partsOfAll team g.cluster now all := mem_partsOfAll started member part
        obtain ⟨m, beyond, there⟩ := Core.exists_pushAll_task (g := g) new
        have old : j < g.size := inside here (by simp)
        refine .inr ⟨m, _, none, ?_, Nat.le_refl _⟩
        rw [Core.set_task_of_ne _ _ (by omega), there]
    · exact .inl ⟨j, all, (step.task_of_ne (inside here (by simp)) turn).trans here, started⟩
  · by_cases turn : j = id
    · subst turn
      obtain ⟨later, doing', there, rfl | bound⟩ := step.watch_turn here
      · exact .inr ⟨j, later, doing', there, le⟩
      · exact .inr ⟨j, later, doing', there, bound⟩
    · exact .inr ⟨j, seen, doing, (step.task_of_ne (inside here (by simp)) turn).trans here, le⟩

/-- Who follows its own objects goes on with it, and has seen no more than there was. -/
theorem Watched.taskStep (watched : Watched c i g (c.source.published g.cluster))
    (step : TaskStep team x id g g') (fits : g.Fits) (member : team[i]? = some c) :
    Watched c i g' (c.source.published g.cluster) :=
  Hears.taskStep watched step fits member (List.mem_append_right _ (List.mem_singleton_self _))

/-- A step that changes what lies at a key lets the key come up. -/
theorem TaskStep.coming_of_differs (step : TaskStep team x id g g') (fits : g.Fits)
    (member : team[i]? = some c) (sound : g.cluster.Sound)
    (watched : Watched c i g (c.source.published g.cluster))
    (differs : c.source.Differs g.cluster g'.cluster k) : Coming c i g' listed k := by
  apply (watched.taskStep step fits member).coming
  rcases step.cluster_cases with same | ⟨r, _, served⟩
  · rw [same] at differs
    exact absurd differs (by cases c.source <;> exact fun differs => differs rfl)
  · rw [served] at differs ⊢
    exact Source.told_next_answer sound differs

end TokenSteward.Controller
