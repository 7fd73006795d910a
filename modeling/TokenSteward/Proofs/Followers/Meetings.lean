import TokenSteward.Proofs.Workers.Balance

/-! # Keys that are gathered

Who follows a store, or lists one from time to time, gathers keys by a pass: one request at a turn, over
the cluster as it is then, until the keys are added to the controller's queue. In between anything may
happen, but nobody else touches the task. So what is gathered depends on what the task meets at its own
turns only, and once it has met enough the keys are passed on.
-/

namespace TokenSteward

open TokenSteward.Cluster TokenSteward.Resource

/-- What a task meets at a turn: the cluster, and what comes with a request to it. -/
structure Meeting where
  cluster : Cluster
  chance : Chance

namespace Pass

variable {α β : Type}

/-- A pass comes to a result by what it meets, one request after the other. -/
inductive ComesTo : Pass α → List Meeting → α → Prop where
  | done (a : α) : ComesTo (.done a) [] a
  | ask {r : Request} {next : r.Answer → Pass α} {x : Meeting} {met : List Meeting} {a : α}
      (goesOn : ComesTo (next (x.cluster.answer x.chance r).1) met a) : ComesTo (.ask r next) (x :: met) a

theorem ComesTo.bind {p : Pass α} {next : α → Pass β} {early late : List Meeting} {a : α} {b : β}
    (first : p.ComesTo early a) (second : (next a).ComesTo late b) :
    (p >>= next).ComesTo (early ++ late) b := by
  induction first with
  | done a => exact second
  | ask _ ih => exact .ask (ih second)

end Pass

namespace Controller

/-- The keys that a task is about to add to the queue of its controller. -/
def Task.gathered : Task → List Key
  | .watch _ _ _ (some (.done keys)) | .resync _ _ (some (.done keys)) => keys
  | _ => []

/-- Whether a task gathers keys for a controller, or did so once. -/
def Task.gathersFor (i : Nat) : Task → Bool
  | .watch j _ _ _ | .resync j _ _ => j == i
  | .finished => true
  | _ => false

/-- A task that gathers keys has ended, looks for an event, waits for an instant, or is in the midst of a
pass. -/
theorem Task.gathersFor_cases {t : Task} {i : Nat} (gathers : t.gathersFor i = true) :
    t = .finished ∨ (∃ w seen, t = .watch i w seen none) ∨ (∃ due, t = .resync i due none) ∨
      ∃ p again, t.Gathers i p again := by
  cases t with
  | watch j w seen doing =>
    obtain rfl : j = i := by simpa [gathersFor] using gathers
    cases doing with
    | none => exact .inr (.inl ⟨w, seen, rfl⟩)
    | some p => exact .inr (.inr (.inr ⟨p, _, .watch j w seen p⟩))
  | resync j due doing =>
    obtain rfl : j = i := by simpa [gathersFor] using gathers
    cases doing with
    | none => exact .inr (.inr (.inl ⟨due, rfl⟩))
    | some p => exact .inr (.inr (.inr ⟨p, _, .resync j due p⟩))
  | finished => exact .inl rfl
  | _ => cases gathers

variable {t : Task} {i : Nat} {p : Pass (List Key)} {again : Option (Pass (List Key)) → Task}

theorem Task.Gathers.goes_on (gathers : t.Gathers i p again) (p' : Pass (List Key)) :
    (again (some p')).Gathers i p' again := by
  cases gathers with
  | watch i w seen => exact .watch i w seen p'
  | resync i due => exact .resync i due p'

theorem Task.Gathers.gathersFor (gathers : t.Gathers i p again) : t.gathersFor i = true := by
  cases gathers <;> exact beq_self_eq_true i

theorem Task.Gathers.gathersFor_again (gathers : t.Gathers i p again) (o : Option (Pass (List Key))) :
    (again o).gathersFor i = true := by
  cases gathers <;> exact beq_self_eq_true i

theorem Task.Gathers.gathered_done {keys : List Key} (gathers : t.Gathers i (.done keys) again) :
    t.gathered = keys := by
  cases gathers <;> rfl

theorem Task.Gathers.gathered_nil (gathers : t.Gathers i p again) (busy : ∀ keys, p ≠ .done keys) :
    t.gathered = [] := by
  cases p with
  | done keys => exact absurd rfl (busy keys)
  | fail f => cases gathers <;> rfl
  | ask r next => cases gathers <;> rfl

namespace Machine

variable {m n : Machine} {id : Nat} {c : Controller} {move : Move} {moves : List Move}

/-- What a task meets at a move, if it is at turn. -/
def meets (m : Machine) (id : Nat) : Move → Option Meeting
  | .next x => if m.ready.head? = some id then some ⟨m.cluster, x⟩ else none
  | .turn j x => if j = id then some ⟨m.cluster, x⟩ else none
  | _ => none

/-- What a task meets in the course of some moves. -/
def meetings (m : Machine) (id : Nat) : List Move → List Meeting
  | [] => []
  | move :: rest => (m.meets id move).toList ++ (m.moved move).meetings id rest

/-- The keys that a task adds to the queue of its controller in the course of some moves. -/
def passed (m : Machine) (id : Nat) : List Move → List Key
  | [] => []
  | move :: rest =>
    (if (m.meets id move).isSome then (m.core.task id).gathered else []) ++ (m.moved move).passed id rest

/-- A task that meets something takes its turn. -/
theorem moved_of_meets {x : Meeting} (meets : m.meets id move = some x) :
    x.cluster = m.cluster ∧ ∃ n : Machine, n.core = m.core ∧ n.controllers = m.controllers ∧
      m.moved move = n.turn id x.chance := by
  cases move with
  | next y =>
    simp only [Machine.meets] at meets
    split at meets
    · next first =>
      cases meets
      cases line : m.ready with
      | nil => simp [line] at first
      | cons j rest =>
        rw [line] at first
        cases first
        exact ⟨rfl, { m with ready := rest }, rfl, rfl, by simp only [moved, next, line]⟩
    · cases meets
  | turn j y =>
    simp only [Machine.meets] at meets
    split at meets
    · next here =>
      cases meets
      subst here
      exact ⟨rfl, m, rfl, rfl, rfl⟩
    · cases meets
  | _ => cases meets

/-- Whatever else happens does not touch a task that gathers keys. -/
theorem task_moved (inside : id < m.core.size) (gathers : (m.core.task id).gathersFor i = true)
    (apart : m.meets id move = none) : (m.moved move).core.task id = m.core.task id := by
  have idle : (m.core.task id).isWorker = false := by
    cases here : m.core.task id <;> rw [here] at gathers <;> first | rfl | cases gathers
  by_cases turn : m.atTurn move = some id
  case neg => exact (houses_moved m move).others id inside (Ne.symm turn)
  cases move with
  | next y =>
    have first : m.ready.head? = some id := turn
    simp [meets, first] at apart
  | turn j y =>
    cases turn
    simp [meets] at apart
  | heedless j y =>
    cases turn
    simp [moved, idle]
  | late j =>
    cases turn
    rcases m.late_eq id with ⟨same, _⟩ | ⟨j, k, p, since, resting, d, busy, _⟩
    · rw [moved, same]
    · rw [busy] at idle
      cases idle
  | _ => cases turn

/-! ## Tasks that serve a controller -/

/-- A controller works in a machine, whatever it remembers. -/
def Hires (m : Machine) (i : Nat) (c : Controller) : Prop :=
  (m.controllers.map Controller.bare)[i]? = some c.bare

/-- A task gathers keys for a controller that works in a machine, and its queue is there. -/
structure Serves (m : Machine) (id i : Nat) (c : Controller) : Prop where
  hired : m.Hires i c
  there : c.queue < m.core.width
  inside : id < m.core.size
  gathers : (m.core.task id).gathersFor i = true

theorem Hires.found (hired : m.Hires i c) : ∃ d, m.controllers[i]? = some d ∧ d.Resembles c := by
  rw [Hires, List.getElem?_map] at hired
  obtain ⟨d, found, same⟩ := Option.map_eq_some_iff.mp hired
  exact ⟨d, found, Controller.resembles_of_bare same⟩

theorem Hires.moved (hired : m.Hires i c) (move : Move) : (m.moved move).Hires i c := by
  rw [Hires, bare_moved]
  exact hired

theorem Serves.with (serves : m.Serves id i c) (core : n.core = m.core)
    (controllers : n.controllers = m.controllers) : n.Serves id i c :=
  ⟨by rw [Hires, controllers]; exact serves.hired, core ▸ serves.there, core ▸ serves.inside,
    core ▸ serves.gathers⟩

theorem turn_of_gathers (x : Chance) (gathers : (m.core.task id).Gathers i p again) :
    m.turn id x = m.after x (m.collect id i p again) := by
  generalize there : m.core.task id = t at gathers
  cases gathers <;> simp only [turn, step, show m.tasks.getD id .finished = _ from there]

/-- A task that asks for something goes on with the answer. -/
theorem Serves.asks (serves : m.Serves id i c) (x : Chance) {r : Request}
    {next : r.Answer → Pass (List Key)} (gathers : (m.core.task id).Gathers i (.ask r next) again) :
    (m.turn id x).core =
      (m.core.withCluster (m.cluster.answer x r).2).set id (again (some (next (m.cluster.answer x r).1))) := by
  rw [turn_of_gathers x gathers]
  exact core_setTask (m.withCluster (m.cluster.answer x r).2) serves.inside _

/-- A task that has gathered keys adds them to the queue, and is free again. -/
theorem Serves.hands (serves : m.Serves id i c) (x : Chance) {keys : List Key}
    (gathers : (m.core.task id).Gathers i (.done keys) again) :
    (m.turn id x).core =
      (m.core.set id (again none)).file c.queue ((m.core.queue c.queue).addAll keys) := by
  obtain ⟨d, found, alike⟩ := serves.hired.found
  have found : (m.setTask id (again none)).controllers[i]? = some d := found
  rw [turn_of_gathers x gathers]
  simp only [collect, found, after, core_enqueueAll, core_setTask m serves.inside, alike.queue]
  rfl

theorem Serves.fails (serves : m.Serves id i c) (x : Chance) {f : Failure}
    (gathers : (m.core.task id).Gathers i (.fail f) again) :
    (m.turn id x).core = m.core.set id (again none) := by
  rw [turn_of_gathers x gathers]
  exact core_setTask m serves.inside _

/-- A turn of a task in the midst of a pass that gathers keys adds what it has gathered. -/
theorem Serves.collects (serves : m.Serves id i c) (x : Chance)
    (gathers : (m.core.task id).Gathers i p again) :
    (∃ o, (m.turn id x).core.task id = again o) ∧
      (m.turn id x).core.queue c.queue = (m.core.queue c.queue).addAll (m.core.task id).gathered := by
  cases p with
  | done keys =>
    rw [serves.hands x gathers, gathers.gathered_done]
    exact ⟨⟨none, Core.set_task_self _ _ _⟩, Core.file_queue_self _ _ serves.there⟩
  | fail f =>
    rw [serves.fails x gathers, gathers.gathered_nil (by simp)]
    exact ⟨⟨none, Core.set_task_self _ _ _⟩, rfl⟩
  | ask r next =>
    rw [serves.asks x gathers, gathers.gathered_nil (by simp)]
    exact ⟨⟨_, Core.set_task_self _ _ _⟩, rfl⟩

/-- A turn of a task that serves a controller adds the keys that it has gathered, and it serves on. -/
theorem Serves.turn (serves : m.Serves id i c) (x : Chance) :
    ((m.turn id x).core.task id).gathersFor i = true ∧
      (m.turn id x).core.queue c.queue = (m.core.queue c.queue).addAll (m.core.task id).gathered := by
  have set (n : Machine) (same : n.core = m.core) {t : Task} (gathers : t.gathersFor i = true) :
      ((n.setTask id t).core.task id).gathersFor i = true ∧
        (n.setTask id t).core.queue c.queue = m.core.queue c.queue := by
    have inside : id < n.core.size := same ▸ serves.inside
    rw [task_setTask n inside, core_setTask n inside, same]
    exact ⟨gathers, rfl⟩
  have own : (i == i) = true := beq_self_eq_true i
  rcases Task.gathersFor_cases serves.gathers with
    ended | ⟨w, seen, looks⟩ | ⟨due, waits⟩ | ⟨p, again, gathers⟩
  · have there : m.tasks.getD id .finished = .finished := ended
    simp only [Machine.turn, step, there, after, ended]
    exact ⟨rfl, rfl⟩
  · have there : m.tasks.getD id .finished = .watch i w seen none := looks
    simp only [Machine.turn, step, there, looks]
    split
    · exact set m rfl rfl
    · split
      · exact set m rfl own
      · exact set m rfl own
      · exact ⟨(congrArg _ looks).trans own, rfl⟩
  · have there : m.tasks.getD id .finished = .resync i due none := waits
    obtain ⟨d, found, _⟩ := serves.hired.found
    simp only [Machine.turn, step, there, found, waits]
    split
    · exact set (m.dropAlarms id) rfl rfl
    · split
      · exact set m rfl own
      · simp only [after, core_setAlarm, waits]
        exact ⟨own, rfl⟩
  · obtain ⟨⟨o, there⟩, queue⟩ := serves.collects x gathers
    exact ⟨there ▸ gathers.gathersFor_again o, queue⟩

/-- Every move lets a task serve on, and at its turns it adds the keys that it has gathered. -/
theorem Serves.moved (serves : m.Serves id i c) (move : Move) : (m.moved move).Serves id i c ∧
    ((m.meets id move).isSome = true →
      (m.moved move).core.queue c.queue = (m.core.queue c.queue).addAll (m.core.task id).gathered) := by
  have houses := houses_moved m move
  have stays (gathers : ((m.moved move).core.task id).gathersFor i = true) : (m.moved move).Serves id i c :=
    ⟨serves.hired.moved move, houses.width ▸ serves.there, Nat.lt_of_lt_of_le serves.inside houses.size,
      gathers⟩
  cases turn : m.meets id move with
  | none =>
    rw [Option.isSome_none]
    refine ⟨stays ?_, fun none => by cases none⟩
    rw [task_moved serves.inside serves.gathers turn]
    exact serves.gathers
  | some x =>
    obtain ⟨_, n, core, controllers, same⟩ := moved_of_meets turn
    obtain ⟨gathers, queue⟩ := (serves.with core controllers).turn x.chance
    rw [← same] at gathers queue
    exact ⟨stays gathers, fun _ => core ▸ queue⟩

/-- A task that asks for something goes on with the answer to it. -/
theorem Serves.goes_on (serves : m.Serves id i c) {x : Meeting} (turn : m.meets id move = some x)
    {r : Request} {next : r.Answer → Pass (List Key)}
    (gathers : (m.core.task id).Gathers i (.ask r next) again) :
    ((m.moved move).core.task id).Gathers i (next (x.cluster.answer x.chance r).1) again := by
  obtain ⟨cluster, n, core, controllers, same⟩ := moved_of_meets turn
  have here : n.cluster = x.cluster := (congrArg Core.cluster core).trans cluster.symm
  rw [same, (serves.with core controllers).asks x.chance (core ▸ gathers), Core.set_task_self, ← here]
  exact gathers.goes_on _

/-- At each of its turns a task adds to a queue the keys that it has gathered. -/
def Adds (m : Machine) (id q : Nat) (moves : List Move) : Prop :=
  ∀ early move late, moves = early ++ move :: late → ((m.played early).meets id move).isSome = true →
    ((m.played early).moved move).core.queue q =
      ((m.played early).core.queue q).addAll ((m.played early).core.task id).gathered

theorem Serves.played (serves : m.Serves id i c) (moves : List Move) : (m.played moves).Serves id i c := by
  induction moves generalizing m with
  | nil => exact serves
  | cons move rest ih => exact ih (serves.moved move).1

theorem Serves.adds (serves : m.Serves id i c) (moves : List Move) : m.Adds id c.queue moves :=
  fun early move _ _ turn => ((serves.played early).moved move).2 turn

/-- Keys that a pass comes to by what its task meets are passed on at the next turn. -/
theorem Serves.passed_of_comesTo (serves : m.Serves id i c) {met : List Meeting} {keys : List Key}
    (comes : p.ComesTo met keys) (gathers : (m.core.task id).Gathers i p again)
    {last : Meeting} {rest : List Meeting} (meetings : m.meetings id moves = met ++ last :: rest) :
    ∀ k ∈ keys, k ∈ m.passed id moves := by
  intro k among
  induction moves generalizing m p met with
  | nil => simp [Machine.meetings] at meetings
  | cons move moves ih =>
    have onward := (serves.moved move).1
    rw [Machine.meetings] at meetings
    rw [passed, List.mem_append]
    cases turn : m.meets id move with
    | none =>
      rw [turn, Option.toList_none, List.nil_append] at meetings
      rw [← task_moved serves.inside serves.gathers turn] at gathers
      exact .inr (ih onward comes gathers meetings)
    | some x =>
      rw [turn, Option.toList_some, List.singleton_append] at meetings
      cases comes with
      | done =>
        simp only [Option.isSome_some, if_true, gathers.gathered_done]
        exact .inl among
      | ask goesOn =>
        obtain ⟨rfl, later⟩ := List.cons.inj meetings
        exact .inr (ih onward goesOn (serves.goes_on turn gathers) later)

/-! ## Who asks for lists only -/

/-- A task asks for nothing but lists. -/
def OnlyLists : Task → Prop
  | .watch _ _ _ doing | .resync _ _ doing => ∀ p ∈ doing, p.Asks Source.Lists
  | _ => True

/-- Who asks for nothing but lists leaves the cluster as it is. -/
theorem Serves.lists (serves : m.Serves id i c) (lists : OnlyLists (m.core.task id)) (x : Chance) :
    OnlyLists ((m.turn id x).core.task id) ∧ (m.turn id x).cluster = m.cluster := by
  have set {t : Task} (lists : OnlyLists t) (n : Machine) (same : n.core = m.core) :
      OnlyLists ((n.setTask id t).core.task id) := by
    rw [task_setTask n (same ▸ serves.inside)]
    exact lists
  rcases Task.gathersFor_cases serves.gathers with
    ended | ⟨w, seen, looks⟩ | ⟨due, waits⟩ | ⟨p, again, gathers⟩
  · have there : m.tasks.getD id .finished = .finished := ended
    simp only [Machine.turn, step, there, after]
    exact ⟨lists, trivial⟩
  · have there : m.tasks.getD id .finished = .watch i w seen none := looks
    simp only [Machine.turn, step, there]
    split
    · exact ⟨set (t := .finished) trivial m rfl, rfl⟩
    · split
      · exact ⟨set (by rintro _ ⟨⟩; exact w.mapper.asks_keys _) m rfl, rfl⟩
      · exact ⟨set (by rintro _ ⟨⟩; exact w.asks_relist) m rfl, rfl⟩
      · exact ⟨lists, rfl⟩
  · have there : m.tasks.getD id .finished = .resync i due none := waits
    obtain ⟨d, found, _⟩ := serves.hired.found
    simp only [Machine.turn, step, there, found]
    split
    · exact ⟨set (t := .finished) trivial (m.dropAlarms id) rfl, rfl⟩
    · split
      · exact ⟨set (by rintro _ ⟨⟩; exact d.source.asks_allKeys) m rfl, rfl⟩
      · have same := core_setAlarm m due id
        simp only [after]
        exact ⟨by rw [same]; exact lists, congrArg Core.cluster same⟩
  · have asks : p.Asks Source.Lists := by
      generalize m.core.task id = t at gathers lists
      cases gathers <;> exact lists p rfl
    have on (o : Option (Pass (List Key))) (asks : ∀ p ∈ o, p.Asks Source.Lists) : OnlyLists (again o) := by
      generalize m.core.task id = t at gathers
      cases gathers <;> exact asks
    have turned : (m.turn id x).cluster = (m.turn id x).core.cluster := rfl
    cases p with
    | ask r next =>
      rw [turned, serves.asks x gathers]
      simp only [Core.set_task_self, Core.set_cluster, Core.withCluster_cluster]
      exact ⟨on _ (by rintro _ ⟨⟩; exact asks.2 _ () trivial), asks.1.answer m.cluster x⟩
    | done keys =>
      rw [turned, serves.hands x gathers]
      simp only [Core.file_task, Core.set_task_self]
      exact ⟨on none (by simp), rfl⟩
    | fail f =>
      rw [turned, serves.fails x gathers]
      simp only [Core.set_task_self]
      exact ⟨on none (by simp), rfl⟩

/-- As long as nobody else is at turn, who asks for nothing but lists meets the same cluster always. -/
theorem Serves.alone (serves : m.Serves id i c) (lists : OnlyLists (m.core.task id)) (turns : List Chance) :
    m.meetings id (turns.map (.turn id)) = turns.map (Meeting.mk m.cluster) ∧
      (m.played (turns.map (.turn id))).cluster = m.cluster := by
  induction turns generalizing m with
  | nil => exact ⟨rfl, rfl⟩
  | cons x turns ih =>
    obtain ⟨still, same⟩ := serves.lists lists x
    have here : m.meets id (.turn id x) = some ⟨m.cluster, x⟩ := if_pos rfl
    obtain ⟨met, cluster⟩ := ih (serves.moved (.turn id x)).1 still
    change (m.moved (.turn id x)).cluster = m.cluster at same
    rw [same] at met cluster
    refine ⟨?_, cluster⟩
    rw [List.map_cons, List.map_cons, meetings, here, met]
    rfl

end Machine

end Controller

end TokenSteward
