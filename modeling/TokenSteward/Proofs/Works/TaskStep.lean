import TokenSteward.Proofs.Cluster.Chances
import TokenSteward.Proofs.Works.Core

/-! # What a step of a task does

A step of a task is inverted once: as long as the controllers are not asked to stop, it is one of few
kinds, each told as a change of the core. What holds of every run of the controllers follows from
what each step keeps.
-/

namespace TokenSteward

open TokenSteward.Cluster TokenSteward.Resource TokenSteward.Queue

/-- A controller without what it remembers. -/
def Controller.bare (c : Controller) : Controller :=
  { c with backoff := ⟨⟨0⟩, ⟨0⟩, Table.empty⟩, started := Table.empty }

/-- Two controllers differ in nothing but what they remember. -/
structure Controller.Resembles (c k : Controller) : Prop where
  source : c.source = k.source
  watches : c.watches = k.watches
  reconcile : c.reconcile = k.reconcile
  tuning : c.tuning = k.tuning
  queue : c.queue = k.queue

theorem Controller.resembles_of_bare {c k : Controller} (same : c.bare = k.bare) :
    c.Resembles k :=
  ⟨(congrArg Controller.source same :), (congrArg Controller.watches same :),
    (congrArg Controller.reconcile same :), (congrArg Controller.tuning same :),
    (congrArg Controller.queue same :)⟩

namespace Controller

/-- The machine after a step of a task. -/
def Machine.after (m : Machine) (x : Chance) : Machine.Step → Machine
  | .goesOn m | .waits m => m
  | .asks r next => next (m.cluster.answer x r).1 (m.withCluster (m.cluster.answer x r).2)

/-- The machine after a task was at turn, whose request, if it makes one, meets a chance. -/
def Machine.turn (m : Machine) (id : Nat) (x : Chance) : Machine := m.after x (m.step id)

/-- The tasks of a controller that starts over a cluster at an instant. -/
def parts (c : Cluster) (now i : Nat) (k : Controller) : List Task :=
  (k.watches ++ [Watch.mk k.source .own]).map (fun w => .watch i w (w.source.published c) none)
    ++ .resync i now none :: List.replicate k.workers (.worker i .idle)

/-- The tasks of some controllers of a team. -/
def partsOfAll (team : List Controller) (c : Cluster) (now : Nat) (all : List Nat) :
    List Task :=
  all.flatMap fun i => match team[i]? with
    | none => []
    | some k => parts c now i k

/-- A task that is in the midst of a pass that gathers keys for a controller, and what it is with
another pass or none. -/
inductive Task.Gathers : Task → Nat → Pass (List Key) → (Option (Pass (List Key)) → Task) → Prop where
  | watch (i : Nat) (w : Watch) (seen : Nat) (p : Pass (List Key)) :
      Gathers (.watch i w seen (some p)) i p (.watch i w seen)
  | resync (i due : Nat) (p : Pass (List Key)) : Gathers (.resync i due (some p)) i p (.resync i due)

/-- Whether a task brings in what it has listed. -/
def Task.bringsIn : Task → Bool
  | .resync _ _ (some (.done _)) => true
  | _ => false

/-- Whether a task is in the midst of a pass. -/
def Task.isBusy : Task → Bool
  | .worker _ (.busy _ _ _ _) => true
  | _ => false

/-- A pass over a key has a result: it ends, or the deadline comes before the end is heard of. -/
inductive Results (k : Key) : Pass Action → Except Failure Action → Prop where
  | done (a : Action) : Results k (.done a) (.ok a)
  | fail (f : Failure) : Results k (.fail f) (.error f)
  | late (p : Pass Action) : Results k p (.error (.deadline k.text))

/-- A key is added to a queue again, at once or later. -/
inductive Retried (q : Nat) (k : Key) (g : Core) : Core → Prop where
  | atOnce : Retried q k g (g.file q ((g.queue q).add k).1)
  | later (delay : Time.Span) : Retried q k g (g.push (.later q k delay none))

/-- What follows for a key from the result of a pass over it. -/
inductive Follows (q : Nat) (k : Key) (g : Core) : Except Failure Action → Core → Prop where
  | awaits : Follows q k g (.ok .await) g
  | requeued {delay : Time.Span} {g' : Core} (again : Retried q k g g') :
      Follows q k g (.ok (.requeue delay)) g'
  | retried {f : Failure} {g' : Core} (worth : f.isRetryable = true) (again : Retried q k g g') :
      Follows q k g (.error f) g'
  | cancelled (t : String) : Follows q k g (.error (.cancelled t)) g
  | dropped {f : Failure} (hopeless : f.isRetryable = false) : Follows q k g (.error f) g

/-- What a step of a task does to the core, or the deadline of the pass that its worker is in the midst
of. -/
inductive TaskStep (team : List Controller) (x : Chance) (id : Nat) (g : Core) :
    Core → Prop where
  | rests (waits : (g.task id).bringsIn = false) : TaskStep team x id g g
  | quits {i : Nat}
      (idle : (∃ due, g.task id = .resync i due none) ∨ ∃ work, g.task id = .worker i work)
      (nobody : team[i]? = none) :
      TaskStep team x id g (g.set id .finished)
  | launched {all : List Nat} (launches : g.task id = .launch all) (now : Nat) :
      TaskStep team x id g ((g.pushAll (partsOfAll team g.cluster now all)).set id (.supervise all))
  | sighted {i seen later : Nat} {w : Watch} {e : Change} (looks : g.task id = .watch i w seen none)
      (sees : w.source.follow g.cluster seen = (.change e, later)) :
      TaskStep team x id g (g.set id (.watch i w later (some (w.mapper.keys e))))
  | missed {i seen later : Nat} {w : Watch} (looks : g.task id = .watch i w seen none)
      (sees : w.source.follow g.cluster seen = (.missed, later)) :
      TaskStep team x id g (g.set id (.watch i w later (some w.relist)))
  | began {i due : Nat} {c : Controller} (waits : g.task id = .resync i due none)
      (member : team[i]? = some c) (later : Nat) :
      TaskStep team x id g (g.set id (.resync i later (some c.source.allKeys)))
  | gathered {i : Nat} {keys : List Key} {again : Option (Pass (List Key)) → Task}
      {c : Controller} (gathers : (g.task id).Gathers i (.done keys) again)
      (member : team[i]? = some c) :
      TaskStep team x id g ((g.set id (again none)).file c.queue ((g.queue c.queue).addAll keys))
  | scattered {i : Nat} {p : Pass (List Key)} {again : Option (Pass (List Key)) → Task}
      (gathers : (g.task id).Gathers i p again) (vain : team[i]? = none ∨ ∃ f, p = .fail f) :
      TaskStep team x id g (g.set id (again none))
  | gathering {i : Nat} {r : Request} {next : r.Answer → Pass (List Key)}
      {again : Option (Pass (List Key)) → Task}
      (gathers : (g.task id).Gathers i (.ask r next) again) :
      TaskStep team x id g ((g.withCluster (g.cluster.answer x r).2).set id
        (again (some (next (g.cluster.answer x r).1))))
  | took {i now : Nat} {k : Key} {rest : List Key} {c : Controller}
      (idle : g.task id = .worker i .idle) (member : team[i]? = some c)
      (waits : (g.queue c.queue).waiting = k :: rest) (count : Nat) :
      TaskStep team x id g ((g.file c.queue ((g.queue c.queue).taken k rest)).set id
        (.worker i (.busy k (c.reconcile k count) now none)))
  | asked {i since : Nat} {k : Key} {r : Request} {next : r.Answer → Pass Action}
      {resting : Option Nat} {c : Controller}
      (busy : g.task id = .worker i (.busy k (.ask r next) since resting))
      (member : team[i]? = some c) (other : ∀ q k, r ≠ .enqueue q k) :
      TaskStep team x id g ((g.withCluster (g.cluster.answer x r).2).set id
        (.worker i (.busy k (next (g.cluster.answer x r).1) since none)))
  | told {i since q : Nat} {k other : Key} {next : (Request.enqueue q other).Answer → Pass Action}
      {resting : Option Nat}
      (busy : g.task id = .worker i (.busy k (.ask (.enqueue q other) next) since resting)) :
      TaskStep team x id g ((g.file q ((g.queue q).add other).1).set id
        (.worker i (.busy k (next ()) since none)))
  | rested {i since : Nat} {k : Key} {span : Time.Span}
      {next : (Request.pause span).Answer → Pass Action} {resting : Option Nat}
      (busy : g.task id = .worker i (.busy k (.ask (.pause span) next) since resting)) (due : Nat) :
      TaskStep team x id g (g.set id (.worker i (.busy k (.ask (.pause span) next) since (some due))))
  | resumed {i since : Nat} {k : Key} {span : Time.Span}
      {next : (Request.pause span).Answer → Pass Action} {resting : Option Nat}
      (busy : g.task id = .worker i (.busy k (.ask (.pause span) next) since resting)) :
      TaskStep team x id g (g.set id (.worker i (.busy k (next ()) since none)))
  | ended {i since : Nat} {k : Key} {p : Pass Action} {resting : Option Nat}
      {c : Controller} {result : Except Failure Action} {g' : Core}
      (busy : g.task id = .worker i (.busy k p since resting)) (member : team[i]? = some c)
      (results : Results k p result) (follows : Follows c.queue k g result g') :
      TaskStep team x id g ((g'.file c.queue ((g'.queue c.queue).done k).1).set id (.worker i .idle))
  | delayed {q : Nat} {k : Key} {delay : Time.Span} (waits : g.task id = .later q k delay none)
      (due : Nat) :
      TaskStep team x id g (g.set id (.later q k delay (some due)))
  | added {q due : Nat} {k : Key} {delay : Time.Span}
      (waits : g.task id = .later q k delay (some due)) :
      TaskStep team x id g ((g.file q ((g.queue q).add k).1).set id .finished)
  | handed {q : Nat} {k : Key} {rest : List Key} (waits : g.task id = .getter q)
      (first : (g.queue q).waiting = k :: rest) :
      TaskStep team x id g ((g.file q ((g.queue q).taken k rest)).set id (.got (.key k)))

theorem Retried.size_le {q : Nat} {k : Key} {g g' : Core} (retried : Retried q k g g') :
    g.size ≤ g'.size := by
  cases retried with
  | atOnce => exact Nat.le_refl _
  | later delay => exact Nat.le_succ _

theorem Follows.size_le {q : Nat} {k : Key} {g g' : Core} {r : Except Failure Action}
    (follows : Follows q k g r g') : g.size ≤ g'.size := by
  cases follows with
  | requeued again => exact Retried.size_le again
  | retried _ again => exact Retried.size_le again
  | _ => exact Nat.le_refl _

/-! ## The staff -/

namespace Machine

/-- Whether the controllers are asked to stop, and the controllers without what they remember. -/
def staff (m : Machine) : Bool × List Controller :=
  (m.stopping, m.controllers.map Controller.bare)

/-- The machine of a team that goes on. -/
def Staffed (team : List Controller) (m : Machine) : Prop :=
  m.staff = (false, team.map Controller.bare)

variable (m : Machine)

@[simp] theorem staff_wake (all : List Nat) : (m.wake all).staff = m.staff := rfl
@[simp] theorem staff_note (n : Note) : (m.note n).staff = m.staff := rfl
@[simp] theorem staff_dropAlarms (id : Nat) : (m.dropAlarms id).staff = m.staff := rfl
@[simp] theorem staff_setTask (id : Nat) (t : Task) : (m.setTask id t).staff = m.staff := rfl
@[simp] theorem staff_spawn (t : Task) : (m.spawn t).staff = m.staff := rfl
@[simp] theorem staff_pass (now : Nat) : (m.pass now).staff = m.staff := rfl
@[simp] theorem staff_withCluster (c : Cluster) : (m.withCluster c).staff = m.staff := rfl
@[simp] theorem staff_setQueue (q : Nat) (change : Dispenser Nat × List Nat) :
    (m.setQueue q change).staff = m.staff := rfl
@[simp] theorem staff_enqueue (q : Nat) (k : Key) : (m.enqueue q k).staff = m.staff := rfl
@[simp] theorem staff_giveBack (q : Nat) (k : Key) : (m.giveBack q k).staff = m.staff := rfl

@[simp] theorem staff_setAlarm (due task : Nat) : (m.setAlarm due task).staff = m.staff := by
  unfold setAlarm
  split <;> rfl

@[simp] theorem staff_enqueueAfter (q : Nat) (k : Key) (delay : Time.Span) :
    (m.enqueueAfter q k delay).staff = m.staff := by
  unfold enqueueAfter
  split <;> rfl

@[simp] theorem staff_enqueueAll (q : Nat) (keys : List Key) :
    (m.enqueueAll q keys).staff = m.staff := by
  induction keys generalizing m with
  | nil => rfl
  | cons k keys ih => exact ih (m.enqueue q k)

@[simp] theorem staff_spawnAll (all : List Task) : (m.spawnAll all).staff = m.staff := by
  induction all generalizing m with
  | nil => rfl
  | cons t all ih => exact ih (m.spawn t)

variable {m}

/-- What a controller remembers is no matter of staff. -/
theorem staff_setController {i : Nat} {c c' : Controller}
    (here : m.controllers[i]? = some c) (same : c'.bare = c.bare) :
    (m.setController i c').staff = m.staff := by
  simp only [staff, setController, List.map_set, same]
  congr 1
  obtain ⟨inside, rfl⟩ := List.getElem?_eq_some_iff.mp here
  rw [← List.getElem_map (f := Controller.bare) (h := by simpa using inside)]
  exact List.set_getElem_self _

variable {team : List Controller}

theorem Staffed.going (staffed : m.Staffed team) : m.stopping = false := congrArg Prod.fst staffed

theorem Staffed.member (staffed : m.Staffed team) {i : Nat} {c : Controller}
    (here : m.controllers[i]? = some c) : ∃ k, team[i]? = some k ∧ c.Resembles k := by
  have same : m.controllers.map Controller.bare = team.map Controller.bare := congrArg Prod.snd staffed
  have there := congrArg (·[i]?) same
  simp only [List.getElem?_map, here, Option.map_some] at there
  obtain ⟨k, found, bare⟩ := Option.map_eq_some_iff.mp there.symm
  exact ⟨k, found, Controller.resembles_of_bare bare.symm⟩

theorem Staffed.nobody (staffed : m.Staffed team) {i : Nat} (gone : m.controllers[i]? = none) :
    team[i]? = none := by
  have same : m.controllers.map Controller.bare = team.map Controller.bare := congrArg Prod.snd staffed
  have there := congrArg (·[i]?) same
  simp only [List.getElem?_map, gone, Option.map_none] at there
  exact Option.map_eq_none_iff.mp there.symm

/-! ## Every step is of one of the kinds -/

/-- A try to take a key from an open queue takes the first one that waits, or changes nothing. -/
theorem take_cases {d : Dispenser Nat} (opened : d.queue.closed = false) (id : Nat) :
    (∃ k rest d', d.queue.waiting = k :: rest ∧ d.take id = (.key k, d') ∧
        d'.queue = d.queue.taken k rest) ∨
      ∃ d', d.take id = (.nothing, d') ∧ d'.queue = d.queue := by
  rcases Queue.take_cases d.queue opened with ⟨k, rest, waits, took⟩ | nothing
  · refine .inl ⟨k, rest, { d with queue := d.queue.taken k rest }, waits, ?_, rfl⟩
    simp only [Dispenser.take, Dispenser.tryTake, took]
  · refine .inr ⟨⟨d.queue, false, d.parked ++ [id]⟩, ?_, rfl⟩
    simp only [Dispenser.take, Dispenser.tryTake, nothing]

theorem retried_enqueueAfter (m : Machine) (q : Nat) (k : Key) (delay : Time.Span) :
    Retried q k m.core (m.enqueueAfter q k delay).core := by
  unfold enqueueAfter
  split
  · rw [core_enqueue]
    exact .atOnce
  · rw [core_spawn]
    exact .later delay

theorem core_launchAll (staffed : m.Staffed team) (all : List Nat) :
    (m.launchAll all).core = m.core.pushAll (partsOfAll team m.cluster m.now all) := by
  have same (n : Machine) (ts : List Task) :
      (n.spawnAll ts).cluster = n.cluster ∧ (n.spawnAll ts).now = n.now := by
    induction ts generalizing n with
    | nil => exact ⟨rfl, rfl⟩
    | cons t ts ih => exact ih (n.spawn t)
  induction all generalizing m with
  | nil => rfl
  | cons i all ih =>
    simp only [partsOfAll, List.flatMap_cons, Core.pushAll_append]
    cases here : m.controllers[i]? with
    | none =>
      have gone := ih staffed
      simp only [launchAll, List.foldl_cons, here, staffed.nobody here] at gone ⊢
      exact gone
    | some c =>
      obtain ⟨k, there, alike⟩ := staffed.member here
      have parts : m.partsOf i c = parts m.cluster m.now i k := by
        simp only [Machine.partsOf, Controller.parts, Controller.workers, alike.source, alike.watches,
          alike.tuning]
      have rest := ih (m := m.spawnAll (m.partsOf i c)) ((staff_spawnAll m _).trans staffed)
      rw [(same m _).1, (same m _).2, core_spawnAll, parts] at rest
      simp only [launchAll, List.foldl_cons, here, there, parts] at rest ⊢
      exact rest

theorem staff_launchAll (all : List Nat) : (m.launchAll all).staff = m.staff := by
  induction all generalizing m with
  | nil => rfl
  | cons i all ih =>
    simp only [launchAll, List.foldl_cons] at ih ⊢
    rw [ih]
    split
    · rfl
    · exact staff_spawnAll m _

/-- The end of a pass over a key of a controller's queue. -/
theorem core_endPass {id i : Nat} (inside : id < m.core.size) (c : Controller) {k : Key}
    {follow : Machine → Machine} {r : Except Failure Action}
    (follows : ∀ n : Machine, n.core = m.core → Follows c.queue k m.core r (follow n).core) :
    ∃ g', Follows c.queue k m.core r g' ∧ (m.endPass id i c k follow).core =
      (g'.file c.queue ((g'.queue c.queue).done k).1).set id (.worker i .idle) := by
  refine ⟨_, follows ((m.note ⟨i, k, .ended⟩).dropAlarms id) (by simp), ?_⟩
  have inside := Nat.lt_of_lt_of_le inside
    (follows ((m.note ⟨i, k, .ended⟩).dropAlarms id) (by simp)).size_le
  simp only [endPass]
  rw [core_setTask _ (by rw [core_giveBack]; exact inside), core_giveBack]

variable (x : Chance) {id i : Nat}

theorem taskStep_collect (staffed : m.Staffed team) {p : Pass (List Key)}
    {again : Option (Pass (List Key)) → Task} (inside : id < m.core.size)
    (gathers : (m.core.task id).Gathers i p again) :
    TaskStep team x id m.core (m.after x (m.collect id i p again)).core := by
  cases p with
  | done keys =>
    simp only [collect]
    cases here : m.controllers[i]? with
    | none =>
      have gone : (m.setTask id (again none)).controllers[i]? = none := here
      simp only [gone, after]
      rw [core_setTask m inside]
      exact .scattered gathers (.inl (staffed.nobody here))
    | some c =>
      obtain ⟨k, there, alike⟩ := staffed.member here
      have here : (m.setTask id (again none)).controllers[i]? = some c := here
      simp only [here, after]
      rw [core_enqueueAll, core_setTask m inside, alike.queue]
      exact .gathered gathers there
  | fail f =>
    simp only [collect, after]
    rw [core_setTask m inside]
    exact .scattered gathers (.inr ⟨f, rfl⟩)
  | ask r next =>
    simp only [collect, after]
    rw [core_setTask (m.withCluster (m.cluster.answer x r).2) inside]
    exact .gathering gathers

theorem taskStep_idle (staffed : m.Staffed team) (opened : ∀ q, (m.core.queue q).closed = false)
    (inside : id < m.core.size) (idle : m.tasks.getD id .finished = .worker i .idle) :
    TaskStep team x id m.core (m.turn id x).core := by
  have idle' : m.core.task id = .worker i .idle := idle
  simp only [turn, step, idle]
  cases here : m.controllers[i]? with
  | none =>
    simp only [after]
    rw [core_setTask m inside]
    exact .quits (.inr ⟨_, idle'⟩) (staffed.nobody here)
  | some c =>
    obtain ⟨k, there, alike⟩ := staffed.member here
    dsimp only
    rcases take_cases (opened c.queue) id with ⟨key, rest, d, waits, took, taken⟩ | ⟨d, nothing, same⟩
    · rw [alike.queue] at waits
      have done : TaskStep team x id m.core ((m.core.file k.queue ((m.core.queue k.queue).taken key rest)).set
          id (.worker i (.busy key (k.reconcile key (c.startedOf key)) m.now none))) :=
        .took idle' there waits _
      rw [← alike.reconcile, ← alike.queue] at done
      have filed : (m.setQueue c.queue (d, [])).core =
          m.core.file c.queue ((m.core.queue c.queue).taken key rest) := by
        rw [core_setQueue, taken]
        rfl
      rw [← filed] at done
      simp only [took]
      split
      · next stops => exact absurd (staffed.going.symm.trans stops) (by decide)
      · refine (congrArg (TaskStep team x id m.core) ?_).mpr done
        exact core_setTask (m.setQueue c.queue (d, [])) inside _
    · simp only [nothing, after]
      rw [core_setQueue, same]
      have kept : m.core.file c.queue (m.queue c.queue).queue = m.core := m.core.file_same c.queue
      rw [kept]
      exact .rests (by rw [idle']; rfl)

/-- What follows from a failure: another try, if it is worth one. -/
theorem follows_of_fail (n : Machine) (c : Controller) (i : Nat) (k : Key) (f : Failure) :
    Follows c.queue k n.core (.error f) (match f with
      | .cancelled _ => n
      | _ =>
        if f.isRetryable then
          (n.setController i { c with backoff := (c.backoff.fail k).2 }).enqueueAfter c.queue k
            ((n.jitter n.notes.length).spread (c.backoff.fail k).1)
        else n.setController i { c with backoff := c.backoff.reset k }).core := by
  split
  · exact .cancelled _
  · split
    · next worth => exact .retried worth (retried_enqueueAfter (n.setController i _) _ _ _)
    · next hopeless => exact .dropped (by simpa using hopeless)

/-- A worker ends its pass: what follows for the key is that of the result. -/
theorem taskStep_endPass (inside : id < m.core.size) {c k : Controller} (there : team[i]? = some k)
    (alike : c.Resembles k) {key : Key} {p : Pass Action} {since : Nat} {resting : Option Nat}
    (busy : m.core.task id = .worker i (.busy key p since resting)) {follow : Machine → Machine}
    {r : Except Failure Action} (results : Results key p r)
    (follows : ∀ n : Machine, n.core = m.core → Follows c.queue key m.core r (follow n).core) :
    TaskStep team x id m.core (m.endPass id i c key follow).core := by
  obtain ⟨g', after, same⟩ := core_endPass inside c follows
  rw [same, alike.queue]
  exact .ended busy there results (alike.queue ▸ after)

theorem taskStep_failPass (inside : id < m.core.size) {c k : Controller} (there : team[i]? = some k)
    (alike : c.Resembles k) {key : Key} {p : Pass Action} {since : Nat} {resting : Option Nat}
    (busy : m.core.task id = .worker i (.busy key p since resting)) {f : Failure}
    (results : Results key p (.error f)) :
    TaskStep team x id m.core (m.failPass id i c key f).core := by
  apply taskStep_endPass x inside there alike busy results
  intro n same
  rw [← same]
  exact follows_of_fail n c i key f

/-- Who fails with a pass is at a new one. -/
theorem task_failPass (inside : id < m.core.size) (c : Controller) (k : Key) (f : Failure) :
    (m.failPass id i c k f).core.task id = .worker i .idle := by
  obtain ⟨g', _, same⟩ := core_endPass (i := i) inside c (k := k) (r := .error f) fun n same =>
    same ▸ follows_of_fail n c i k f
  exact (congrArg (Core.task · id) same).trans (Core.set_task_self _ _ _)

theorem taskStep_workOn (staffed : m.Staffed team) (inside : id < m.core.size) {c k : Controller}
    (there : team[i]? = some k) (alike : c.Resembles k) {key : Key} {p : Pass Action} {since : Nat}
    {resting : Option Nat} (busy : m.core.task id = .worker i (.busy key p since resting)) :
    TaskStep team x id m.core (m.after x (m.workOn id i c key p since resting)).core := by
  have fails (f : Failure) (results : Results key p (.error f)) :
      TaskStep team x id m.core (m.failPass id i c key f).core :=
    taskStep_failPass x inside there alike busy results
  have succeeds (a : Action) (results : Results key p (.ok a)) :
      TaskStep team x id m.core (m.succeedPass id i c key a).core := by
    apply taskStep_endPass x inside there alike busy results
    intro n same
    rw [← same]
    cases a with
    | await => exact .awaits
    | requeue delay => exact .requeued (retried_enqueueAfter (n.setController i _) _ _ _)
  unfold workOn
  rw [staffed.going]
  simp only [Bool.false_eq_true, if_false]
  split
  · exact succeeds _ (.done _)
  · exact fails _ (.fail _)
  · next span next due =>
    unfold restOn
    split
    · refine (congrArg (TaskStep team x id m.core) ?_).mpr (.resumed busy)
      exact core_setTask (m.note ⟨i, key, .resumed⟩) inside _
    · split
      · exact fails _ (.late _)
      · exact .rests (by rw [busy]; rfl)
  · simp only [after, core_setAlarm]
    rw [core_setTask m inside]
    exact .rested busy _
  · next q other next =>
    simp only [after]
    rw [core_setTask (m.enqueue q other) (by rw [core_enqueue]; exact inside), core_enqueue]
    exact .told busy
  · next r next notTelling _ _ =>
    simp only [after]
    rw [core_setTask (m.withCluster (m.cluster.answer x r).2) inside]
    refine .asked busy there fun q other same => ?_
    subst same
    exact notTelling q other next rfl HEq.rfl

theorem taskStep_look (staffed : m.Staffed team) (inside : id < m.core.size) {w : Watch} {seen : Nat}
    (looks : m.tasks.getD id .finished = .watch i w seen none) :
    TaskStep team x id m.core (m.turn id x).core := by
  have looks' : m.core.task id = .watch i w seen none := looks
  simp only [turn, step, looks]
  split
  · next stops => exact absurd (staffed.going.symm.trans stops) (by decide)
  · split
    · next e later sees =>
      simp only [after]
      rw [core_setTask m inside]
      exact .sighted looks' sees
    · next later sees =>
      simp only [after]
      rw [core_setTask m inside]
      exact .missed looks' sees
    · exact .rests (by rw [looks']; rfl)

theorem taskStep_due (staffed : m.Staffed team) (inside : id < m.core.size) {due : Nat}
    (waits : m.tasks.getD id .finished = .resync i due none) :
    TaskStep team x id m.core (m.turn id x).core := by
  have waits' : m.core.task id = .resync i due none := waits
  simp only [turn, step, waits]
  cases here : m.controllers[i]? with
  | none =>
    simp only [after]
    rw [core_setTask m inside]
    exact .quits (.inl ⟨due, waits'⟩) (staffed.nobody here)
  | some c =>
    obtain ⟨k, there, alike⟩ := staffed.member here
    dsimp only
    split
    · next stops => exact absurd (staffed.going.symm.trans stops) (by decide)
    · split
      · simp only [after]
        rw [core_setTask m inside, alike.source]
        exact .began waits' there _
      · simp only [after, core_setAlarm]
        exact .rests (by rw [waits']; rfl)

theorem taskStep_later (inside : id < m.core.size) {q : Nat} {k : Key} {delay : Time.Span}
    {due : Option Nat} (waits : m.tasks.getD id .finished = .later q k delay due) :
    TaskStep team x id m.core (m.turn id x).core := by
  have waits' : m.core.task id = .later q k delay due := waits
  cases due with
  | none =>
    simp only [turn, step, waits, after, core_setAlarm]
    rw [core_setTask m inside]
    exact .delayed waits' _
  | some due =>
    simp only [turn, step, waits]
    split
    · simp only [after]
      rw [core_setTask (m.enqueue q k) (by rw [core_enqueue]; exact inside), core_enqueue]
      exact .added waits'
    · simp only [after]
      rw [core_setTask m inside, ← waits', Core.set_same]
      exact .rests (by rw [waits']; rfl)

theorem taskStep_getter (opened : ∀ q, (m.core.queue q).closed = false) (inside : id < m.core.size)
    {q : Nat} (waits : m.tasks.getD id .finished = .getter q) :
    TaskStep team x id m.core (m.turn id x).core := by
  have waits' : m.core.task id = .getter q := waits
  simp only [turn, step, waits]
  rcases take_cases (opened q) id with ⟨key, rest, d, first, took, taken⟩ | ⟨d, nothing, same⟩
  · have filed : (m.setQueue q (d, [])).core = m.core.file q ((m.core.queue q).taken key rest) := by
      rw [core_setQueue, taken]
      rfl
    simp only [took, after]
    rw [core_setTask (m.setQueue q (d, [])) (by rw [filed]; exact inside), filed]
    exact .handed waits' first
  · simp only [nothing, after]
    rw [core_setQueue, same]
    have kept : m.core.file q (m.queue q).queue = m.core := m.core.file_same q
    rw [kept]
    exact .rests (by rw [waits']; rfl)

/-- Every step of a task is of one of the kinds. -/
theorem taskStep_turn (staffed : m.Staffed team) (opened : ∀ q, (m.core.queue q).closed = false)
    (id : Nat) (x : Chance) : TaskStep team x id m.core (m.turn id x).core := by
  have inside {t : Task} (here : m.core.task id = t) (other : t ≠ .finished) : id < m.core.size :=
    m.inside_of_task here other
  have waits {t : Task} (here : m.core.task id = t) (other : t.bringsIn = false) :
      (m.core.task id).bringsIn = false :=
    here ▸ other
  rcases there : m.tasks.getD id .finished with
    all | all | ⟨i, w, seen, _ | p⟩ | ⟨i, due, _ | p⟩ | ⟨i, _ | ⟨k, p, since, resting⟩⟩ |
      ⟨q, k, delay, due⟩ | q | h | _
  · have here : m.core.task id = .launch all := there
    have pushed : (m.launchAll all).core =
        m.core.pushAll (partsOfAll team m.core.cluster m.now all) := core_launchAll staffed all
    have launched : TaskStep team x id m.core _ := .launched here m.now
    rw [← pushed] at launched
    have going : ((m.launchAll all).setTask id (.supervise all)).stopping = false :=
      (congrArg Prod.fst (staff_launchAll all)).trans staffed.going
    simp only [turn, step, there, going, Bool.false_eq_true, if_false, after]
    refine (congrArg (TaskStep team x id m.core) ?_).mpr launched
    refine core_setTask (m.launchAll all) ?_ _
    rw [pushed]
    exact Nat.lt_of_lt_of_le (inside here (by simp)) (Core.le_size_pushAll _ _)
  · simp only [turn, step, there, staffed.going, Bool.false_eq_true, if_false, after]
    exact .rests (waits there rfl)
  · exact taskStep_look x staffed (inside there (by simp)) there
  · have here : m.core.task id = .watch i w seen (some p) := there
    simp only [turn, step, there]
    exact taskStep_collect x staffed (inside here (by simp)) (by rw [here]; exact .watch i w seen p)
  · exact taskStep_due x staffed (inside there (by simp)) there
  · have here : m.core.task id = .resync i due (some p) := there
    simp only [turn, step, there]
    exact taskStep_collect x staffed (inside here (by simp)) (by rw [here]; exact .resync i due p)
  · exact taskStep_idle x staffed opened (inside there (by simp)) there
  · have here : m.core.task id = .worker i (.busy k p since resting) := there
    simp only [turn, step, there]
    cases member : m.controllers[i]? with
    | none =>
      simp only [after]
      rw [core_setTask m (inside here (by simp))]
      exact .quits (.inr ⟨_, here⟩) (staffed.nobody member)
    | some c =>
      obtain ⟨k, there, alike⟩ := staffed.member member
      exact taskStep_workOn x staffed (inside here (by simp)) there alike here
  · exact taskStep_later x (inside there (by simp)) there
  · exact taskStep_getter x opened (inside there (by simp)) there
  · simp only [turn, step, there, after]
    exact .rests (waits there rfl)
  · simp only [turn, step, there, after]
    exact .rests (waits there rfl)

theorem staff_endPass {c : Controller} {k : Key} {follow : Machine → Machine}
    (same : ∀ n : Machine, n.controllers = m.controllers → (follow n).staff = n.staff) :
    (m.endPass id i c k follow).staff = m.staff := by
  simp only [endPass, staff_setTask, staff_giveBack]
  exact same _ rfl

theorem staff_succeedPass {c : Controller} (k : Key) (a : Action)
    (here : m.controllers[i]? = some c) : (m.succeedPass id i c k a).staff = m.staff := by
  apply staff_endPass
  intro n same
  have here : n.controllers[i]? = some c := same ▸ here
  cases a with
  | await => exact staff_setController here rfl
  | requeue delay => exact (staff_enqueueAfter _ _ _ _).trans (staff_setController here rfl)

theorem staff_failPass {c : Controller} (k : Key) (f : Failure)
    (here : m.controllers[i]? = some c) : (m.failPass id i c k f).staff = m.staff := by
  apply staff_endPass
  intro n same
  have here : n.controllers[i]? = some c := same ▸ here
  split
  · rfl
  · split
    · exact (staff_enqueueAfter _ _ _ _).trans (staff_setController here rfl)
    · exact staff_setController here rfl

theorem staff_collect (p : Pass (List Key)) (again : Option (Pass (List Key)) → Task) :
    (m.after x (m.collect id i p again)).staff = m.staff := by
  cases p with
  | done keys =>
    simp only [collect]
    split
    · rfl
    · exact staff_enqueueAll _ _ _
  | fail f => rfl
  | ask r next => rfl

theorem staff_workOn {c : Controller} (k : Key) (p : Pass Action) (since : Nat)
    (resting : Option Nat) (here : m.controllers[i]? = some c) :
    (m.after x (m.workOn id i c k p since resting)).staff = m.staff := by
  have fails (f : Failure) : (m.after x (.goesOn (m.failPass id i c k f))).staff = m.staff := by
    simp only [after]
    exact staff_failPass k f here
  unfold workOn
  split
  · exact fails _
  · split
    · simp only [after]
      exact staff_succeedPass k _ here
    · exact fails _
    · unfold restOn
      split
      · rfl
      · split
        · exact fails _
        · rfl
    · simp only [after, staff_setAlarm, staff_setTask]
    · rfl
    · rfl

theorem staff_closeAll (all : List Nat) : (m.closeAll all).staff = m.staff := by
  induction all generalizing m with
  | nil => rfl
  | cons i all ih =>
    simp only [closeAll, List.foldl_cons] at ih ⊢
    rw [ih]
    split <;> rfl

/-- A step of a task does not change the staff. -/
theorem staff_turn (m : Machine) (id : Nat) (x : Chance) : (m.turn id x).staff = m.staff := by
  unfold turn step
  split
  · rfl
  · rfl
  · dsimp only
    split <;> exact staff_launchAll _
  · split
    · exact staff_closeAll _
    · rfl
  · exact staff_collect _ _ _
  · split
    · rfl
    · split <;> rfl
  · exact staff_collect _ _ _
  · split
    · rfl
    · split
      · simp [after]
      · split
        · rfl
        · simp [after]
  · split
    · rfl
    · next c here =>
      split
      · next k d _ =>
        have here : (m.setQueue c.queue (d, [])).controllers[_]? = some c := here
        dsimp only
        split <;> exact staff_setController here rfl
      · rfl
      · rfl
  · split
    · rfl
    · next here => exact staff_workOn _ _ _ _ _ here
  · simp [after]
  · split <;> rfl
  · split <;> rfl

end Machine

end Controller

end TokenSteward
