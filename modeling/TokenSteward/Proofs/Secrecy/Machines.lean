import TokenSteward.Proofs.Secrecy.Alike
import TokenSteward.Proofs.Works.Reached

/-! # Machines that differ in secrets alone

Two machines are alike if their clusters are, and each task of one is at the same point as that of the
other, in the midst of passes that are alike. Everything else about them is the same: queues, alarms,
notes, what the controllers remember, and who is ready. A step of a task makes the same of both.
-/

namespace TokenSteward.Controller

open TokenSteward.Cluster TokenSteward.Resource TokenSteward.Secret TokenSteward.Queue Machine

variable {pairs : Record → Record → Prop}

/-- Whether a task is not in the midst of a pass. -/
def Task.isFree : Task → Bool
  | .watch _ _ _ (some _) | .resync _ _ (some _) | .worker _ (.busy _ _ _ _) => false
  | _ => true

/-- Two tasks are at the same point of passes that are alike. -/
inductive Task.Alike (pairs : Record → Record → Prop) : Task → Task → Prop where
  | free {t : Task} (free : t.isFree = true) : Alike pairs t t
  | watch (i : Nat) (w : Watch) (seen : Nat) {p p' : Pass (List Key)} (alike : p.Alike pairs Eq p') :
      Alike pairs (.watch i w seen (some p)) (.watch i w seen (some p'))
  | resync (i due : Nat) {p p' : Pass (List Key)} (alike : p.Alike pairs Eq p') :
      Alike pairs (.resync i due (some p)) (.resync i due (some p'))
  | worker (i : Nat) (k : Key) (since : Nat) (resting : Option Nat) {p p' : Pass Action}
      (alike : p.Alike pairs Eq p') :
      Alike pairs (.worker i (.busy k p since resting)) (.worker i (.busy k p' since resting))

/-- As many tasks, each like its counterpart. -/
structure TasksAlike (pairs : Record → Record → Prop) (ts ts' : Array Task) : Prop where
  size : ts.size = ts'.size
  each : ∀ id, (ts.getD id .finished).Alike pairs (ts'.getD id .finished)

namespace TasksAlike

variable {ts ts' : Array Task} {t t' : Task}

theorem set (alike : TasksAlike pairs ts ts') (id : Nat) (task : t.Alike pairs t') :
    TasksAlike pairs (ts.setIfInBounds id t) (ts'.setIfInBounds id t') := by
  refine ⟨by simp [alike.size], fun j => ?_⟩
  have each := alike.each j
  simp only [Array.getD_eq_getD_getElem?, Array.getElem?_setIfInBounds, alike.size] at each ⊢
  split
  · split
    · exact task
    · exact .free rfl
  · exact each

theorem push (alike : TasksAlike pairs ts ts') (task : t.Alike pairs t') :
    TasksAlike pairs (ts.push t) (ts'.push t') := by
  refine ⟨by simp [alike.size], fun j => ?_⟩
  have each := alike.each j
  simp only [Array.getD_eq_getD_getElem?, Array.getElem?_push, alike.size] at each ⊢
  split
  · exact task
  · exact each

theorem map_eq {β : Type} (alike : TasksAlike pairs ts ts') {f : Task → β}
    (same : ∀ {t t' : Task}, t.Alike pairs t' → f t = f t') :
    ts.toList.map f = ts'.toList.map f := by
  apply List.ext_getElem (by simp [alike.size])
  intro id inside inside'
  rw [List.length_map, Array.length_toList] at inside inside'
  have each := alike.each id
  rw [Array.getD, Array.getD, dif_pos inside, dif_pos inside'] at each
  simpa using same each

end TasksAlike

section

variable {c c' : Cluster}

theorem Source.published_alike (clusters : c.Alike pairs c') (s : Source) :
    s.published c = s.published c' := by
  cases s with
  | tokens => exact congrArg Store.published clusters.tokens
  | bindings => exact congrArg Store.published clusters.bindings
  | updates => exact congrArg Store.published clusters.updates

theorem Source.follow_alike (clusters : c.Alike pairs c') (s : Source) (seen : Nat) :
    s.follow c seen = s.follow c' seen := by
  cases s with
  | tokens => simp only [Source.follow, clusters.tokens]
  | bindings => simp only [Source.follow, clusters.bindings]
  | updates => simp only [Source.follow, clusters.updates]

end

namespace Machine

/-- The machine with another cluster and other tasks. -/
def beside (m : Machine) (c : Cluster) (tasks : Array Task) : Machine :=
  { m with cluster := c, tasks := tasks }

/-- Two machines are the same but for clusters and tasks that are alike. Their controllers work in the
same way whatever the records are. -/
inductive Alike (pairs : Record → Record → Prop) : Machine → Machine → Prop where
  | intro {m : Machine} {c : Cluster} {tasks : Array Task} (cluster : m.cluster.Alike pairs c)
      (each : TasksAlike pairs m.tasks tasks)
      (discreet : ∀ k ∈ m.controllers, ∀ key count,
        (k.reconcile key count).Alike pairs Eq (k.reconcile key count)) :
      Alike pairs m (m.beside c tasks)

namespace Alike

variable {m m' : Machine}

theorem stopping (alike : m.Alike pairs m') : m'.stopping = m.stopping := by cases alike; rfl
theorem now (alike : m.Alike pairs m') : m'.now = m.now := by cases alike; rfl
theorem queues (alike : m.Alike pairs m') : m'.queues = m.queues := by cases alike; rfl
theorem controllers (alike : m.Alike pairs m') : m'.controllers = m.controllers := by cases alike; rfl
theorem notes (alike : m.Alike pairs m') : m'.notes = m.notes := by cases alike; rfl
theorem jitter (alike : m.Alike pairs m') : m'.jitter = m.jitter := by cases alike; rfl
theorem queue (alike : m.Alike pairs m') (q : Nat) : m'.queue q = m.queue q := by cases alike; rfl

theorem clusters (alike : m.Alike pairs m') : m.cluster.Alike pairs m'.cluster := by
  cases alike with | intro cluster _ _ => exact cluster

theorem tasks (alike : m.Alike pairs m') : TasksAlike pairs m.tasks m'.tasks := by
  cases alike with | intro _ each _ => exact each

theorem discreet (alike : m.Alike pairs m') {k : Controller} (member : k ∈ m.controllers) (key : Key)
    (count : Nat) : (k.reconcile key count).Alike pairs Eq (k.reconcile key count) := by
  cases alike with | intro _ _ discreet => exact discreet k member key count

/-- What does not look at clusters and tasks makes the same of machines that are alike. -/
theorem map {f : Machine → Machine} (alike : m.Alike pairs m')
    (blind : ∀ m c ts, f (Machine.beside m c ts) = (f m).beside c ts)
    (cluster : ∀ m, (f m).cluster = m.cluster) (tasks : ∀ m, (f m).tasks = m.tasks)
    (staff : ∀ m, (f m).controllers = m.controllers) : (f m).Alike pairs (f m') := by
  cases alike with
  | intro clusters each discreet =>
    rw [blind]
    exact .intro (cluster m ▸ clusters) (tasks m ▸ each) (staff m ▸ discreet)

theorem wake (alike : m.Alike pairs m') (ids : List Nat) : (m.wake ids).Alike pairs (m'.wake ids) :=
  alike.map (f := fun m => m.wake ids) (fun _ _ _ => rfl) (fun _ => rfl) (fun _ => rfl) fun _ => rfl

theorem setQueue (alike : m.Alike pairs m') (q : Nat) (change : Dispenser Nat × List Nat) :
    (m.setQueue q change).Alike pairs (m'.setQueue q change) :=
  alike.map (f := fun m => m.setQueue q change) (fun _ _ _ => rfl) (fun _ => rfl) (fun _ => rfl)
    fun _ => rfl

theorem enqueue (alike : m.Alike pairs m') (q : Nat) (k : Key) :
    (m.enqueue q k).Alike pairs (m'.enqueue q k) :=
  alike.map (f := fun m => m.enqueue q k) (fun _ _ _ => rfl) (fun _ => rfl) (fun _ => rfl)
    fun _ => rfl

theorem enqueueAll (alike : m.Alike pairs m') (q : Nat) (keys : List Key) :
    (m.enqueueAll q keys).Alike pairs (m'.enqueueAll q keys) := by
  induction keys generalizing m m' with
  | nil => exact alike
  | cons k keys ih => exact ih (alike.enqueue q k)

theorem giveBack (alike : m.Alike pairs m') (q : Nat) (k : Key) :
    (m.giveBack q k).Alike pairs (m'.giveBack q k) :=
  alike.map (f := fun m => m.giveBack q k) (fun _ _ _ => rfl) (fun _ => rfl) (fun _ => rfl)
    fun _ => rfl

theorem note (alike : m.Alike pairs m') (n : Note) : (m.note n).Alike pairs (m'.note n) :=
  alike.map (f := fun m => m.note n) (fun _ _ _ => rfl) (fun _ => rfl) (fun _ => rfl) fun _ => rfl

theorem dropAlarms (alike : m.Alike pairs m') (id : Nat) :
    (m.dropAlarms id).Alike pairs (m'.dropAlarms id) :=
  alike.map (f := fun m => m.dropAlarms id) (fun _ _ _ => rfl) (fun _ => rfl) (fun _ => rfl)
    fun _ => rfl

theorem setAlarm (alike : m.Alike pairs m') (due id : Nat) :
    (m.setAlarm due id).Alike pairs (m'.setAlarm due id) := by
  unfold Machine.setAlarm
  have now := alike.now
  by_cases past : due ≤ m.now
  · rw [if_pos past, if_pos (by omega)]
    exact alike
  · rw [if_neg past, if_neg (by omega)]
    exact alike.map (f := fun m => { m with alarms := m.alarms ++ [⟨due, id⟩] })
      (fun _ _ _ => rfl) (fun _ => rfl) (fun _ => rfl) fun _ => rfl

theorem listen (alike : m.Alike pairs m') (l : Source × Nat) :
    Machine.Alike pairs { m with listening := m.listening ++ [l] }
      { m' with listening := m'.listening ++ [l] } :=
  alike.map (f := fun m => { m with listening := m.listening ++ [l] }) (fun _ _ _ => rfl)
    (fun _ => rfl) (fun _ => rfl) fun _ => rfl

theorem pass (alike : m.Alike pairs m') (now : Nat) : (m.pass now).Alike pairs (m'.pass now) :=
  alike.map (f := fun m => m.pass now) (fun _ _ _ => rfl) (fun _ => rfl) (fun _ => rfl) fun _ => rfl

theorem setTask (alike : m.Alike pairs m') (id : Nat) {t t' : Task} (task : t.Alike pairs t') :
    (m.setTask id t).Alike pairs (m'.setTask id t') := by
  cases alike with
  | intro clusters each discreet => exact .intro clusters (each.set id task) discreet

theorem spawn (alike : m.Alike pairs m') {t : Task} (free : t.isFree = true) :
    (m.spawn t).Alike pairs (m'.spawn t) := by
  cases alike with
  | @intro c tasks clusters each discreet =>
    have same : (m.beside c tasks).spawn t = (m.spawn t).beside c (tasks.push t) := by
      simp only [Machine.spawn, beside, each.size]
    rw [same]
    exact .intro clusters (each.push (.free free)) discreet

theorem spawnAll (alike : m.Alike pairs m') {all : List Task} (free : ∀ t ∈ all, t.isFree = true) :
    (m.spawnAll all).Alike pairs (m'.spawnAll all) := by
  induction all generalizing m m' with
  | nil => exact alike
  | cons t all ih =>
    exact ih (alike.spawn (free t List.mem_cons_self)) fun u here => free u (List.mem_cons_of_mem _ here)

theorem enqueueAfter (alike : m.Alike pairs m') (q : Nat) (k : Key) (delay : Time.Span) :
    (m.enqueueAfter q k delay).Alike pairs (m'.enqueueAfter q k delay) := by
  unfold Machine.enqueueAfter
  split
  · exact alike.enqueue q k
  · exact alike.spawn rfl

/-- A controller may remember other things as long as it works in the same way. -/
theorem setController (alike : m.Alike pairs m') (i : Nat) {c k : Controller} (member : c ∈ m.controllers)
    (same : k.reconcile = c.reconcile) : (m.setController i k).Alike pairs (m'.setController i k) := by
  cases alike with
  | intro clusters each discreet =>
    refine .intro clusters each fun l present => ?_
    rcases List.mem_or_eq_of_mem_set present with old | rfl
    · exact discreet l old
    · rw [same]
      exact discreet c member

theorem withCluster (alike : m.Alike pairs m') {c c' : Cluster} (clusters : c.Alike pairs c') :
    (m.withCluster c).Alike pairs (m'.withCluster c') := by
  cases alike with
  | @intro d tasks old each discreet =>
    have same : (m.beside d tasks).withCluster c' = (m.withCluster c).beside c' tasks := by
      simp only [Machine.withCluster, beside, Source.published_alike old, Source.published_alike clusters]
      rfl
    rw [same]
    exact .intro clusters each discreet

/-! ## Passes of workers -/

variable {i id : Nat} {c : Controller} {k : Key}

theorem endPass (alike : m.Alike pairs m') {follow : Machine → Machine}
    (follows : ∀ n n', n.Alike pairs n' → n.controllers = m.controllers →
      (follow n).Alike pairs (follow n')) :
    (m.endPass id i c k follow).Alike pairs (m'.endPass id i c k follow) :=
  ((follows _ _ ((alike.note _).dropAlarms id) rfl).giveBack _ k).setTask id (.free rfl)

theorem remember (alike : m.Alike pairs m') (member : c ∈ m.controllers) (b : Backoff) :
    (m.setController i { c with backoff := b }).Alike pairs
      (m'.setController i { c with backoff := b }) :=
  alike.setController (c := c) i member rfl

theorem succeedPass (alike : m.Alike pairs m') (member : c ∈ m.controllers) (a : Action) :
    (m.succeedPass id i c k a).Alike pairs (m'.succeedPass id i c k a) := by
  apply alike.endPass
  intro n n' alike staff
  have reset := alike.remember (i := i) (staff ▸ member) (c.backoff.reset k)
  cases a with
  | await => exact reset
  | requeue delay => exact reset.enqueueAfter _ k delay

theorem failPass (alike : m.Alike pairs m') (member : c ∈ m.controllers) (f : Failure) :
    (m.failPass id i c k f).Alike pairs (m'.failPass id i c k f) := by
  apply alike.endPass
  intro n n' alike staff
  have remembers := alike.remember (i := i) (c := c) (staff ▸ member)
  split
  · exact alike
  · split
    · rw [alike.jitter, alike.notes]
      exact (remembers _).enqueueAfter _ k _
    · exact remembers _

end Alike

/-! ## Steps -/

/-- Two steps go on or wait with machines that are alike, or ask for the same and go on alike. -/
inductive Step.Alike (pairs : Record → Record → Prop) : Step → Step → Prop where
  | goesOn {m m' : Machine} (alike : m.Alike pairs m') : Alike pairs (.goesOn m) (.goesOn m')
  | waits {m m' : Machine} (alike : m.Alike pairs m') : Alike pairs (.waits m) (.waits m')
  | asks {α : Type} {r r' : Request} {next : r.Answer → Pass α} {next' : r'.Answer → Pass α}
      (alike : (Pass.ask r next).Alike pairs Eq (.ask r' next')) (id : Nat) {at_ : Pass α → Task}
      (goesOn : ∀ p p', p.Alike pairs Eq p' → (at_ p).Alike pairs (at_ p')) :
      Alike pairs (.asks r fun answer m => m.setTask id (at_ (next answer)))
        (.asks r' fun answer m => m.setTask id (at_ (next' answer)))

variable {m m' : Machine} {x y : Chance} {id i : Nat}

theorem Alike.after (alike : m.Alike pairs m') (chance : x.Alike pairs y) {s s' : Step}
    (steps : s.Alike pairs s') : (m.after x s).Alike pairs (m'.after y s') := by
  cases steps with
  | goesOn alike => exact alike
  | waits alike => exact alike
  | asks asked id goesOn =>
    obtain ⟨next, clusters⟩ := asked.answered alike.clusters chance
    exact (alike.withCluster clusters).setTask id (goesOn _ _ next)

/-- What gathers keys makes the same of machines that are alike. -/
theorem Alike.collect (alike : m.Alike pairs m') {p p' : Pass (List Key)}
    (passes : p.Alike pairs Eq p') {again : Option (Pass (List Key)) → Task}
    (free : (again none).isFree = true)
    (goesOn : ∀ p p', p.Alike pairs Eq p' → (again (some p)).Alike pairs (again (some p'))) :
    (m.collect id i p again).Alike pairs (m'.collect id i p' again) := by
  have rests := alike.setTask id (.free free)
  unfold Machine.collect
  cases p with
  | done keys =>
    cases passes with
    | done same =>
      subst same
      simp only [rests.controllers]
      split
      · exact .goesOn rests
      · exact .goesOn (rests.enqueueAll _ keys)
  | fail f =>
    cases passes with
    | fail f => exact .goesOn rests
  | ask r next =>
    cases p' with
    | done keys => cases passes
    | fail f => cases passes
    | ask r' next' => exact .asks passes id goesOn

section

variable {c : Controller} {k : Key}

theorem Alike.restOn (alike : m.Alike pairs m') (member : c ∈ m.controllers) {p p' : Pass Action}
    (passes : p.Alike pairs Eq p') (since due : Nat) :
    (m.restOn id i c k p since due).Alike pairs (m'.restOn id i c k p' since due) := by
  unfold Machine.restOn
  rw [alike.now]
  split
  · exact .goesOn ((alike.note _).setTask id (.worker i k since none passes))
  · split
    · exact .goesOn (alike.failPass member _)
    · exact .waits alike

/-- A worker in the midst of a pass makes the same of machines that are alike. -/
theorem Alike.workOn (alike : m.Alike pairs m') (member : c ∈ m.controllers) {p p' : Pass Action}
    (passes : p.Alike pairs Eq p') (since : Nat) (resting : Option Nat) :
    (m.workOn id i c k p since resting).Alike pairs (m'.workOn id i c k p' since resting) := by
  unfold Machine.workOn
  rw [alike.stopping]
  split
  · exact .goesOn (alike.failPass member _)
  · have asks {r r' : Request} {next : r.Answer → Pass Action} {next' : r'.Answer → Pass Action}
        (passes : (Pass.ask r next).Alike pairs Eq (.ask r' next')) :
        Step.Alike pairs (.asks r fun answer m => m.setTask id (.worker i (.busy k (next answer) since none)))
          (.asks r' fun answer m => m.setTask id (.worker i (.busy k (next' answer) since none))) :=
      @Step.Alike.asks pairs _ _ _ _ _ passes id (fun p => .worker i (.busy k p since none))
        fun _ _ passes => .worker i k since none passes
    cases passes with
    | done same =>
      subst same
      exact .goesOn (alike.succeedPass member _)
    | fail f => exact .goesOn (alike.failPass member f)
    | @asks r plain next next' goesOn =>
      have passes := Pass.Alike.asks plain goesOn
      cases r with
      | pause span =>
        cases resting with
        | some due => exact alike.restOn member (goesOn ()) since due
        | none =>
          simp only [Machine.dueAfter, alike.now]
          exact .goesOn (((alike.setTask id (.worker i k since _ passes)).setAlarm _ id).setAlarm _ id)
      | enqueue q other =>
        exact .goesOn ((alike.enqueue q other).setTask id (.worker i k since none (goesOn ())))
      | _ => exact asks passes
    | reads owner goesOn => exact asks (.reads owner goesOn)
    | stores owner pair goesOn => exact asks (.stores owner pair goesOn)
    | validates s wanted pair goesOn => exact asks (.validates s wanted pair goesOn)
    | persists s owner pair goesOn => exact asks (.persists s owner pair goesOn)

end

/-- Listing is plain. -/
theorem plain_of_lists {r : Request} (lists : Source.Lists r) : r.Plain := by
  cases lists <;> trivial

theorem Alike.launchAll (alike : m.Alike pairs m') (all : List Nat) :
    (m.launchAll all).Alike pairs (m'.launchAll all) := by
  induction all generalizing m m' with
  | nil => exact alike
  | cons i all ih =>
    apply ih
    dsimp only
    rw [alike.controllers]
    cases m.controllers[i]? with
    | none => exact alike
    | some c =>
      have same : m'.partsOf i c = m.partsOf i c := by
        simp only [Machine.partsOf, alike.now, Source.published_alike alike.clusters]
      dsimp only
      rw [same]
      apply alike.spawnAll
      intro t here
      simp only [Machine.partsOf, List.mem_append, List.mem_map, List.mem_cons, List.mem_replicate] at here
      rcases here with ⟨w, _, rfl⟩ | rfl | ⟨_, rfl⟩ <;> rfl

theorem Alike.closeAll (alike : m.Alike pairs m') (all : List Nat) :
    (m.closeAll all).Alike pairs (m'.closeAll all) := by
  induction all generalizing m m' with
  | nil => exact alike
  | cons i all ih =>
    apply ih
    dsimp only
    rw [alike.controllers]
    cases m.controllers[i]? with
    | none => exact alike
    | some c =>
      dsimp only
      rw [alike.queue]
      exact alike.setQueue _ _

/-- A free worker takes the same key from a queue of machines that are alike. -/
theorem Alike.take (alike : m.Alike pairs m') (here : m.tasks.getD id .finished = .worker i .idle)
    (there : m'.tasks.getD id .finished = .worker i .idle) :
    (m.step id).Alike pairs (m'.step id) := by
  simp only [Machine.step, here, there, alike.controllers]
  split
  · exact .goesOn (alike.setTask id (.free rfl))
  · next c found =>
    have member := List.mem_of_getElem? found
    rw [alike.queue]
    split
    · next k d taken =>
      have counted := (alike.setQueue c.queue (d, [])).setController (c := c) i
        (k := { c with started := c.started.insert k (c.startedOf k + 1) }) member rfl
      simp only [counted.stopping]
      split
      · exact .goesOn (counted.giveBack c.queue k)
      · rw [counted.now]
        exact .goesOn ((counted.note _).setTask id
          (.worker i k m.now none (alike.discreet member k _)))
    · exact .waits (alike.setQueue c.queue _)
    · exact .goesOn ((alike.setQueue c.queue _).setTask id (.free rfl))

/-- Whoever looks for changes sees the same in machines that are alike. -/
theorem Alike.look (alike : m.Alike pairs m') {w : Watch} {seen : Nat}
    (here : m.tasks.getD id .finished = .watch i w seen none)
    (there : m'.tasks.getD id .finished = .watch i w seen none) :
    (m.step id).Alike pairs (m'.step id) := by
  simp only [Machine.step, here, there, alike.stopping, ← Source.follow_alike alike.clusters]
  split
  · exact .goesOn (alike.setTask id (.free rfl))
  · split
    · next e later _ =>
      have keys : (w.mapper.keys e).Alike pairs Eq (w.mapper.keys e) :=
        ((w.mapper.asks_keys e).weaken fun r => plain_of_lists).alike
      exact .goesOn (alike.setTask id (.watch i w later keys))
    · next later _ =>
      have keys : w.relist.Alike pairs Eq w.relist :=
        (w.asks_relist.weaken fun r => plain_of_lists).alike
      exact .goesOn (alike.setTask id (.watch i w later keys))
    · have heard := alike.listen (w.source, id)
      simp only [alike.stopping] at heard
      exact .waits heard

/-- A listing falls due at the same time in machines that are alike. -/
theorem Alike.resync (alike : m.Alike pairs m') {due : Nat}
    (here : m.tasks.getD id .finished = .resync i due none)
    (there : m'.tasks.getD id .finished = .resync i due none) :
    (m.step id).Alike pairs (m'.step id) := by
  simp only [Machine.step, here, there, alike.stopping, alike.controllers, alike.now]
  split
  · exact .goesOn (alike.setTask id (.free rfl))
  · next c _ =>
    split
    · exact .goesOn ((alike.dropAlarms id).setTask id (.free rfl))
    · split
      · have keys : c.source.allKeys.Alike pairs Eq c.source.allKeys :=
          ((Source.asks_allKeys c.source).weaken fun r => plain_of_lists).alike
        exact .goesOn (alike.setTask id (.resync i _ keys))
      · exact .waits (alike.setAlarm due id)

/-- A step of a task comes to the same for machines that are alike. -/
theorem Alike.step (alike : m.Alike pairs m') (id : Nat) :
    (m.step id).Alike pairs (m'.step id) := by
  have task := alike.tasks.each id
  generalize here : m.tasks.getD id .finished = t at task
  generalize there : m'.tasks.getD id .finished = t' at task
  cases task with
  | watch i w seen passes =>
    simp only [Machine.step, here, there]
    exact alike.collect passes rfl fun _ _ passes => .watch i w seen passes
  | resync i due passes =>
    simp only [Machine.step, here, there]
    exact alike.collect passes rfl fun _ _ passes => .resync i due passes
  | worker i k since resting passes =>
    simp only [Machine.step, here, there, alike.controllers]
    split
    · exact .goesOn (alike.setTask id (.free rfl))
    · next c found => exact alike.workOn (List.mem_of_getElem? found) passes since resting
  | free free =>
    cases t with
    | launch all =>
      have launched := (alike.launchAll all).setTask id (.free (t := .supervise all) rfl)
      simp only [Machine.step, here, there, launched.stopping]
      split
      · exact .goesOn launched
      · exact .waits launched
    | supervise all =>
      simp only [Machine.step, here, there, alike.stopping]
      split
      · exact .goesOn ((alike.closeAll all).setTask id (.free rfl))
      · exact .waits alike
    | watch i w seen doing =>
      cases doing with
      | none => exact alike.look here there
      | some p => cases free
    | resync i due doing =>
      cases doing with
      | none => exact alike.resync here there
      | some p => cases free
    | worker i work =>
      cases work with
      | idle => exact alike.take here there
      | busy k p since resting => cases free
    | later q k delay due =>
      cases due with
      | none =>
        simp only [Machine.step, here, there, Machine.dueAfter, alike.now]
        exact .waits ((alike.setTask id (.free rfl)).setAlarm _ id)
      | some due =>
        simp only [Machine.step, here, there, alike.now]
        split
        · exact .waits ((alike.enqueue q k).setTask id (.free rfl))
        · exact .waits (alike.setTask id (.free rfl))
    | getter q =>
      simp only [Machine.step, here, there, alike.queue]
      split
      · exact .waits (alike.setQueue q _)
      · exact .waits ((alike.setQueue q _).setTask id (.free rfl))
    | got handout =>
      simp only [Machine.step, here, there]
      exact .waits alike
    | finished =>
      simp only [Machine.step, here, there]
      exact .waits alike

/-- A turn of a task makes the same of machines that are alike. -/
theorem Alike.turn (alike : m.Alike pairs m') (chance : x.Alike pairs y) (id : Nat) :
    (m.turn id x).Alike pairs (m'.turn id y) :=
  alike.after chance (alike.step id)

/-- A deadline makes the same of machines that are alike. -/
theorem Alike.late (alike : m.Alike pairs m') (id : Nat) :
    (m.late id).Alike pairs (m'.late id) := by
  have task := alike.tasks.each id
  unfold Machine.late
  generalize m.tasks.getD id .finished = t at task ⊢
  generalize m'.tasks.getD id .finished = t' at task ⊢
  cases task with
  | free free =>
    split
    · cases free
    · exact alike
  | watch i w seen passes => exact alike
  | resync i due passes => exact alike
  | worker i k since resting passes =>
    simp only [alike.controllers]
    split
    · next c found => exact alike.failPass (List.mem_of_getElem? found) _
    · exact alike

theorem heedsStop_alike {t t' : Task} (task : t.Alike pairs t') : heedsStop t' = heedsStop t := by
  cases task <;> rfl

/-- A request to stop makes the same of machines that are alike. -/
theorem Alike.stop (alike : m.Alike pairs m') : m.stop.Alike pairs m'.stop := by
  have asked := alike.map (f := fun m => { m with stopping := true, listening := [] })
    (fun _ _ _ => rfl) (fun _ => rfl) (fun _ => rfl) fun _ => rfl
  have same : (List.range m'.tasks.size).filter (fun id => heedsStop (m'.tasks.getD id .finished)) =
      (List.range m.tasks.size).filter fun id => heedsStop (m.tasks.getD id .finished) := by
    simp only [heedsStop_alike (alike.tasks.each _), alike.tasks.size]
  unfold Machine.stop
  rw [same]
  exact asked.wake _

/-- The start of an operator makes the same of machines that are alike. -/
theorem Alike.installOperator (alike : m.Alike pairs m') {o : Operator}
    (discreet : ∀ c ∈ [o.tokens, o.bindings, o.updates], ∀ key count,
      (c.reconcile key count).Alike pairs Eq (c.reconcile key count)) :
    (m.installOperator o).Alike pairs (m'.installOperator o) := by
  have staffed : Machine.Alike pairs
      { m with
        controllers := m.controllers ++ [o.tokens, o.bindings, o.updates]
        queues := m.queues ++ List.replicate 3 Dispenser.empty }
      { m' with
        controllers := m'.controllers ++ [o.tokens, o.bindings, o.updates]
        queues := m'.queues ++ List.replicate 3 Dispenser.empty } := by
    cases alike with
    | intro clusters each old =>
      refine .intro clusters each fun c member => ?_
      rcases List.mem_append.mp member with early | late
      · exact old c early
      · exact discreet c late
  unfold Machine.installOperator Machine.install
  rw [alike.controllers]
  rw [alike.controllers] at staffed
  exact staffed.spawn rfl

end Machine

end TokenSteward.Controller
