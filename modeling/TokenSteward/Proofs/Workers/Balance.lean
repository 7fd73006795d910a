import TokenSteward.Proofs.Workers.Kept

/-! # The books balance

A machine that has been launched keeps to its controllers and queues whatever happens, so all its moves
are entries in the books of a controller's workers. What the entries come to is told for every run: each
key is held by one worker at a time and given back once for each time that it was handed out; the
failures of a key are those of its own passes in a row; and a key comes again as often and as late as
the results of its passes ask for.
-/

namespace TokenSteward.Controller

open TokenSteward.Cluster TokenSteward.Resource TokenSteward.Time

namespace Machine

variable {team : List Controller} {i : Nat} {c d : Controller} {m n : Machine} {id : Nat} {x : Chance}

/-! ## Those who add keys later are called -/

/-- Whoever adds a key later is ready for the first turn, then has an alarm set, and is ready again once
the instant has come; this may not hold of one task that is about to be at turn. -/
structure CalledBut (out : Option Nat) (m : Machine) : Prop where
  ahead : ∀ a ∈ m.alarms, m.now < a.due
  fresh : ∀ {id q k delay}, m.core.task id = .later q k delay none →
    delay.isZero = false ∧ (some id ≠ out → id ∈ m.ready)
  due : ∀ {id q k delay t}, m.core.task id = .later q k delay (some t) →
    ⟨t, id⟩ ∈ m.alarms ∨ t ≤ m.now ∧ (some id ≠ out → id ∈ m.ready)

/-- Whoever adds a key later is called in time. -/
def Called (m : Machine) : Prop := m.CalledBut none

theorem CalledBut.of_keeps (called : m.CalledBut (some id)) (keeps : Keeps id m n)
    (apart : ∀ {q k delay due}, n.core.task id = .later q k delay due →
      m.core.task id ≠ .later q k delay due) : n.Called := by
  have other {j q k delay due} (here : n.core.task j = .later q k delay due)
      (before : m.core.task j = .later q k delay due) : j ≠ id := by
    rintro rfl
    exact apart here before
  refine ⟨fun a there => ?_, fun {j q k delay} here => ?_, fun {j q k delay t} here => ?_⟩
  · rw [keeps.now]
    exact (keeps.ahead a there).elim (called.ahead a) fun ahead => ahead
  · rcases keeps.later j q k delay none here with before | ⟨-, some, ready⟩
    · obtain ⟨some, ready⟩ := called.fresh before
      exact ⟨some, fun _ => keeps.ready j (ready (by simpa using other here before))⟩
    · exact ⟨some, fun _ => ready⟩
  · rcases keeps.later j q k delay (some t) here with before | ⟨none, -, -⟩
    · rcases called.due before with alarm | ⟨come, ready⟩
      · exact .inl (keeps.alarms _ alarm (other here before))
      · rw [keeps.now]
        exact .inr ⟨come, fun _ => keeps.ready j (ready (by simpa using other here before))⟩
    · cases none

theorem Called.but (called : m.Called) (id : Nat) : m.CalledBut (some id) :=
  ⟨called.ahead, fun here => ⟨(called.fresh here).1, fun _ => (called.fresh here).2 (by simp)⟩,
    fun here => (called.due here).imp_right fun due => ⟨due.1, fun _ => due.2 (by simp)⟩⟩

/-- The first task leaves the line. -/
theorem Called.pop (called : m.Called) {rest : List Nat} (line : m.ready = id :: rest) :
    ({ m with ready := rest } : Machine).CalledBut (some id) := by
  have stays {j : Nat} (ready : j ∈ m.ready) (other : some j ≠ some id) : j ∈ rest := by
    rw [line] at ready
    exact (List.mem_cons.mp ready).resolve_left fun same => other (congrArg some same)
  refine ⟨called.ahead, fun here => ?_, fun here => ?_⟩
  · obtain ⟨some, ready⟩ := called.fresh here
    exact ⟨some, stays (ready (by simp))⟩
  · exact (called.due here).imp_right fun due => ⟨due.1, stays (due.2 (by simp))⟩

/-- The first turn of a task that adds a key later lets it wait for its alarm. -/
theorem CalledBut.waits (called : m.CalledBut (some id)) {q : Nat} {k : Key} {delay : Span}
    (new : m.core.task id = .later q k delay none) :
    ((m.setTask id (.later q k delay (some (m.dueAfter delay)))).setAlarm (m.dueAfter delay) id).Called := by
  have inside : id < m.core.size := m.inside_of_task new (by simp)
  have ahead : m.now < m.dueAfter delay := by
    have lasts : delay.nanos ≠ 0 := by simpa [Span.isZero] using (called.fresh new).1
    unfold dueAfter millisUp
    omega
  have alarm : (m.setTask id (.later q k delay (some (m.dueAfter delay)))).setAlarm (m.dueAfter delay) id =
      { m.setTask id (.later q k delay (some (m.dueAfter delay))) with
        alarms := m.alarms ++ [⟨m.dueAfter delay, id⟩] } :=
    if_neg (Nat.not_le.mpr ahead)
  have core := core_setTask m inside (.later q k delay (some (m.dueAfter delay)))
  rw [alarm]
  refine ⟨forall_mem_snoc called.ahead ahead, fun {j q' k' delay'} here => ?_,
    fun {j q' k' delay' t} here => ?_⟩
  · change (setTask m _ _).core.task j = _ at here
    rw [core] at here
    by_cases same : j = id
    · rw [same, Core.set_task_self] at here
      cases here
    · rw [Core.set_task_of_ne _ _ same] at here
      exact ⟨(called.fresh here).1, fun _ => (called.fresh here).2 (by simpa using same)⟩
  · change (setTask m _ _).core.task j = _ at here
    rw [core] at here
    by_cases same : j = id
    · rw [same, Core.set_task_self] at here
      cases here
      rw [same]
      exact .inl (List.mem_append_right _ List.mem_cons_self)
    · rw [Core.set_task_of_ne _ _ same] at here
      exact (called.due here).imp (List.mem_append_left _) fun due =>
        ⟨due.1, fun _ => due.2 (by simpa using same)⟩

/-- Every turn of a task calls in time those who add keys later. -/
theorem CalledBut.turn (called : m.CalledBut (some id)) (x : Chance) : (m.turn id x).Called := by
  by_cases later : ∃ q k delay due, m.core.task id = .later q k delay due
  case neg =>
    simp only [not_exists] at later
    exact called.of_keeps (keeps_turn x later) fun _ => later _ _ _ _
  obtain ⟨q, k, delay, due, waits⟩ := later
  have inside : id < m.core.size := m.inside_of_task waits (by simp)
  rw [turn_later waits]
  cases due with
  | none => exact called.waits waits
  | some t =>
    dsimp only
    split
    · have core := core_enqueue m q k
      have keeps : Keeps id m ((m.enqueue q k).setTask id .finished) :=
        ((Keeps.refl id m).setQueue q _).setTask rfl
      refine called.of_keeps keeps fun here => ?_
      rw [core_setTask _ (by rw [core]; exact inside), Core.set_task_self] at here
      cases here
    · next ahead =>
      have core : (m.setTask id (.later q k delay (some t))).core = m.core := by
        rw [core_setTask m inside, ← waits, Core.set_same]
      refine ⟨called.ahead, fun {j q' k' delay'} here => ?_, fun {j q' k' delay' t'} here => ?_⟩
      · rw [core] at here
        obtain ⟨some, ready⟩ := called.fresh here
        refine ⟨some, fun _ => ready ?_⟩
        rintro ⟨⟩
        rw [waits] at here
        cases here
      · rw [core] at here
        refine (called.due here).imp_right fun due => ⟨due.1, fun _ => due.2 ?_⟩
        rintro ⟨⟩
        rw [waits] at here
        cases here
        exact ahead due.1

/-- A deadline finishes the pass of a worker, and does nothing otherwise. -/
theorem late_eq (m : Machine) (id : Nat) :
    (m.late id = m ∧ ∀ j k p since resting,
      m.core.task id = .worker j (.busy k p since resting) → m.controllers[j]? = none) ∨
    ∃ j k p since resting d, m.core.task id = .worker j (.busy k p since resting) ∧
      m.controllers[j]? = some d ∧ m.late id = m.finish id j d k (.error (.deadline k.text)) := by
  unfold late
  split
  · next j k p since resting here =>
    split
    · next d found => exact .inr ⟨j, k, p, since, resting, d, here, found, failPass_eq ..⟩
    · next nobody =>
      refine .inl ⟨rfl, fun _ _ _ _ _ there => ?_⟩
      cases here.symm.trans there
      exact nobody
  · next other => exact .inl ⟨rfl, fun j k p since resting there =>
      absurd there (other j k p since resting)⟩

theorem Called.pass (called : m.Called) (now : Nat) (onward : m.now ≤ now) : (m.pass now).Called := by
  have due (a : Alarm) : a ∈ (m.alarms.partition (·.due ≤ now)).1 ↔ a ∈ m.alarms ∧ a.due ≤ now := by
    simp [List.partition_eq_filter_filter]
  have rest (a : Alarm) : a ∈ (m.alarms.partition (·.due ≤ now)).2 ↔ a ∈ m.alarms ∧ now < a.due := by
    simp [List.partition_eq_filter_filter]
  have woken {a : Alarm} (there : a ∈ m.alarms) (come : a.due ≤ now) : a.task ∈ (m.pass now).ready := by
    apply mem_ready_wake.mpr
    exact .inr (List.mem_map.mpr ⟨a, List.mem_mergeSort.mpr ((due a).mpr ⟨there, come⟩), rfl⟩)
  refine ⟨fun a there => ((rest a).mp there).2, fun {j q k delay} here => ?_,
    fun {j q k delay t} here => ?_⟩
  · obtain ⟨some, ready⟩ := called.fresh here
    exact ⟨some, fun out => mem_ready_wake.mpr (.inl (ready out))⟩
  · rcases called.due here with alarm | ⟨come, ready⟩
    · by_cases come : t ≤ now
      · exact .inr ⟨come, fun _ => woken alarm come⟩
      · exact .inl ((rest _).mpr ⟨alarm, Nat.not_le.mp come⟩)
    · exact .inr ⟨Nat.le_trans come onward, fun out => mem_ready_wake.mpr (.inl (ready out))⟩

/-- Every move calls in time those who add keys later. -/
theorem Called.moved (called : m.Called) (move : Move) : (m.moved move).Called := by
  have plain (id : Nat) (n : Machine) (keeps : Keeps id m n)
      (other : ∀ q k delay due, n.core.task id ≠ .later q k delay due ∨
        m.core.task id ≠ .later q k delay due) : n.Called :=
    (called.but id).of_keeps keeps fun here => (other _ _ _ _).resolve_left (not_not_intro here)
  have beyond (n : Machine) (keeps : Keeps m.core.size m n) : n.Called :=
    plain m.core.size n keeps fun q k delay due => .inr (by
      rw [m.fits_core _ (Nat.le_refl _)]
      simp)
  cases move with
  | next x =>
    simp only [Machine.moved, next]
    split
    · exact called
    · next id rest line => exact (called.pop line).turn x
  | turn id x => exact (called.but id).turn x
  | heedless id x =>
    simp only [Machine.moved]
    split
    · have heedless : ({ m with stopping := false } : Machine).Called :=
        ⟨called.ahead, called.fresh, called.due⟩
      have turned := (heedless.but id).turn x
      exact ⟨turned.ahead, turned.fresh, turned.due⟩
    · exact called
  | late id =>
    rcases m.late_eq id with ⟨same, _⟩ | ⟨j, k, p, since, resting, d, busy, _, same⟩
    · rw [Machine.moved, same]
      exact called
    · rw [Machine.moved, same]
      exact plain id _ ((Keeps.refl id m).finish j k _) fun q k delay due => .inr (by
        rw [busy]
        simp)
  | adds q k => exact beyond _ ((Keeps.refl _ m).setQueue q _)
  | delays q k delay => exact beyond _ ((Keeps.refl _ m).enqueueAfter q k delay)
  | passes millis => exact called.pass _ (Nat.le_add_right _ _)
  | shifts c => exact beyond _ ((Keeps.refl _ m).withCluster c)
  | stops =>
    have stopped : Keeps m.core.size m m.stop :=
      (Keeps.refl _ m).of_more rfl rfl rfl rfl (fun _ there => mem_ready_wake.mpr (.inl there)) rfl
    exact beyond _ stopped

/-! ## Controllers and queues stay -/

theorem bare_moved (m : Machine) (move : Move) :
    (m.moved move).controllers.map Controller.bare = m.controllers.map Controller.bare := by
  cases move with
  | next x =>
    simp only [moved, next]
    split
    · rfl
    · exact congrArg Prod.snd (staff_turn ({ m with ready := _ } : Machine) _ x)
  | turn id x => exact congrArg Prod.snd (staff_turn m id x)
  | heedless id x =>
    simp only [moved]
    split
    · exact congrArg Prod.snd (staff_turn ({ m with stopping := false } : Machine) id x)
    · rfl
  | late id =>
    simp only [moved, late]
    split
    · split
      · next found => exact congrArg Prod.snd (staff_failPass _ _ found)
      · rfl
    · rfl
  | delays q k delay => exact congrArg Prod.snd (staff_enqueueAfter m q k delay)
  | _ => rfl

/-- The queues and tasks of a machine are there, except that the one at turn may be another task by now,
and nobody else begins to wait for a key. -/
structure Houses (out : Option Nat) (m n : Machine) : Prop where
  width : n.core.width = m.core.width
  size : m.core.size ≤ n.core.size
  others : ∀ j < m.core.size, some j ≠ out → n.core.task j = m.core.task j
  getter : ∀ id q, n.core.task id = .getter q → m.core.task id = .getter q

theorem Keeps.houses (keeps : Keeps id m n) : Houses (some id) m n :=
  ⟨keeps.width, keeps.size, fun j old other => keeps.others j old (by simpa using other), keeps.getter⟩

/-- What nobody has done leaves all tasks. -/
theorem Keeps.houses_all (keeps : Keeps m.core.size m n) (out : Option Nat) : Houses out m n :=
  ⟨keeps.width, keeps.size, fun j old _ => keeps.others j old (Nat.ne_of_lt old), keeps.getter⟩

theorem houses_turn (m : Machine) (id : Nat) (x : Chance) : Houses (some id) m (m.turn id x) := by
  by_cases later : ∃ q k delay due, m.core.task id = .later q k delay due
  case neg =>
    simp only [not_exists] at later
    exact (keeps_turn x later).houses
  obtain ⟨q, k, delay, due, waits⟩ := later
  have inside : id < m.core.size := m.inside_of_task waits (by simp)
  have set (t : Task) (other : ∀ q, t ≠ .getter q) : Houses (some id) m (m.setTask id t) := by
    have core := core_setTask m inside t
    refine ⟨by rw [core, Core.set_width], by rw [core, Core.set_size], fun j _ same => ?_,
      fun j q here => ?_⟩
    · rw [core, Core.set_task_of_ne _ _ (by simpa using same)]
    · rw [core] at here
      by_cases same : j = id
      · rw [same, Core.set_task_self] at here
        exact absurd here (other q)
      · rwa [Core.set_task_of_ne _ _ same] at here
  rw [turn_later waits]
  cases due with
  | none =>
    have houses := set (.later q k delay (some (m.dueAfter delay))) (by simp)
    exact ⟨by rw [core_setAlarm]; exact houses.width, by rw [core_setAlarm]; exact houses.size,
      by rw [core_setAlarm]; exact houses.others, by rw [core_setAlarm]; exact houses.getter⟩
  | some t =>
    dsimp only
    split
    · exact (((Keeps.refl id m).setQueue q _).setTask rfl).houses
    · exact set _ (by simp)

/-- The task that a move brings to its turn, or to its deadline. -/
def atTurn (m : Machine) : Move → Option Nat
  | .next _ => m.ready.head?
  | .turn id _ | .heedless id _ | .late id => some id
  | _ => none

theorem houses_moved (m : Machine) (move : Move) : Houses (m.atTurn move) m (m.moved move) := by
  have keeps := Keeps.refl m.core.size m
  cases move with
  | next x =>
    simp only [moved, next, atTurn]
    split
    · exact keeps.houses_all _
    · next id rest line =>
      have turned := houses_turn ({ m with ready := rest } : Machine) id x
      rw [line]
      exact ⟨turned.width, turned.size, turned.others, turned.getter⟩
  | turn id x => exact houses_turn m id x
  | heedless id x =>
    simp only [moved]
    split
    · have turned := houses_turn ({ m with stopping := false } : Machine) id x
      exact ⟨turned.width, turned.size, turned.others, turned.getter⟩
    · exact keeps.houses_all _
  | late id =>
    rcases m.late_eq id with ⟨same, _⟩ | ⟨j, k, p, since, resting, d, _, _, same⟩
    · rw [moved, same]
      exact keeps.houses_all _
    · rw [moved, same]
      exact ((Keeps.refl id m).finish j k _).houses
  | adds q k => exact (keeps.setQueue q _).houses_all _
  | delays q k delay => exact (keeps.enqueueAfter q k delay).houses_all _
  | passes millis => exact ⟨rfl, Nat.le_refl _, fun _ _ _ => rfl, fun _ _ here => here⟩
  | shifts c => exact (keeps.withCluster c).houses_all _
  | stops => exact ⟨rfl, Nat.le_refl _, fun _ _ _ => rfl, fun _ _ here => here⟩

/-- Every move leaves the controller where it is. -/
theorem Tended.moved (tended : m.Tended team i c) (move : Move) : (m.moved move).Tended team i c := by
  have houses := houses_moved m move
  exact ⟨(bare_moved m move).trans tended.bare, tended.member, tended.alone,
    houses.width ▸ tended.there, fun id q here => tended.ours id q (houses.getter id q here)⟩

/-! ## Every move is an entry -/

theorem Tended.with (tended : m.Tended team i c) (core : n.core = m.core)
    (controllers : n.controllers = m.controllers) : n.Tended team i c :=
  ⟨controllers ▸ tended.bare, tended.member, tended.alone, core ▸ tended.there, core ▸ tended.ours⟩

/-- A deadline that comes ends the pass of a worker, or finds none to end. -/
theorem Tended.entry_late (tended : m.Tended team i c) (id : Nat) :
    Entry (m.books i c.queue).least (m.books i c.queue) (m.mark i c.queue (.late id))
      ((m.moved (.late id)).books i c.queue) := by
  obtain ⟨e, ours, _⟩ := tended.found
  rcases m.late_eq id with ⟨late, nobody⟩ | ⟨j, k, p, since, resting, d, busy, found, late⟩
  · simp only [Machine.moved, late, mark]
    split
    · next j k p since resting here =>
      split
      · next own =>
        have gone := nobody j k p since resting here
        rw [own, ours] at gone
        cases gone
      · exact .same _
    · exact .same _
  · simp only [Machine.moved, late, mark, busy]
    split
    · next own =>
      subst own
      exact tended.entry_finish found busy _
    · next other => exact .of_eq (tended.books_finish_of_ne found other busy _)

/-- Every move of a machine is the entry in the books that its mark names. -/
theorem Tended.entry_moved (tended : m.Tended team i c) (move : Move) :
    Entry (m.books i c.queue).least (m.books i c.queue) (m.mark i c.queue move)
      ((m.moved move).books i c.queue) := by
  have same : Entry (m.books i c.queue).least (m.books i c.queue) .quiet (m.books i c.queue) := .same _
  cases move with
  | next x =>
    simp only [Machine.moved, next, mark]
    split
    · exact same
    · next id rest line =>
      have popped : ({ m with ready := rest } : Machine).Tended team i c := tended.with rfl rfl
      exact popped.entry_turn id x
  | turn id x => exact tended.entry_turn id x
  | heedless id x =>
    have heedless : ({ m with stopping := false } : Machine).Tended team i c := tended.with rfl rfl
    simp only [Machine.moved, mark]
    split
    · exact heedless.entry_turn id x
    · next other =>
      have plain : (m.core.task id).isWorker = false := by simpa using other
      have quiet : ({ m with stopping := false } : Machine).markOfTurn i id = .quiet :=
        markOfTurn_of_other plain
      rw [quiet]
      exact same
  | late id => exact tended.entry_late id
  | adds q k =>
    simp only [Machine.moved, mark]
    rw [books_enqueue tended.there]
    split
    · exact .adds [k]
    · exact same
  | delays q k delay =>
    simp only [Machine.moved, mark]
    split
    · next ours =>
      subst ours
      exact .delays (books_enqueueAfter tended.there k delay)
    · next other =>
      rw [books_enqueueAfter_of_ne other]
      exact same
  | passes millis => exact .passes (Nat.le_add_right m.now millis)
  | shifts c => exact same
  | stops => exact same

/-! ## Runs -/

/-- Before its launch a controller has done nothing yet: its queue is its own and empty, no failures
stand with it, and no task does more than start controllers. -/
structure Fresh (i : Nat) (c : Controller) (m : Machine) : Prop where
  member : m.controllers[i]? = some c
  alone : ∀ j k, m.controllers[j]? = some k → k.queue = c.queue → j = i
  there : c.queue < m.queues.length
  empty : (m.queue c.queue).queue = Queue.empty
  clean : c.backoff.failures = Table.empty
  launches : ∀ id, m.core.task id = .finished ∨ ∃ all, m.core.task id = .launch all
  calm : m.alarms = []

theorem played_snoc (m : Machine) (moves : List Move) (move : Move) :
    m.played (moves ++ [move]) = (m.played moves).moved move := by
  simp [played]

theorem log_snoc (m : Machine) (i q : Nat) (moves : List Move) (move : Move) :
    m.log i q (moves ++ [move]) = m.log i q moves ++ [(m.played moves).mark i q move] := by
  induction moves generalizing m with
  | nil => rfl
  | cons first rest ih => exact congrArg (m.mark i q first :: ·) (ih (m.moved first))

theorem Fresh.tended (fresh : m.Fresh i c) : m.Tended m.controllers i c := by
  refine ⟨rfl, fresh.member, fresh.alone, fresh.there, fun id q here => ?_⟩
  rcases fresh.launches id with same | ⟨all, same⟩ <;> rw [here] at same <;> cases same

theorem Fresh.called (fresh : m.Fresh i c) : m.Called := by
  have apart {id q k delay due} (here : m.core.task id = .later q k delay due) : False := by
    rcases fresh.launches id with same | ⟨all, same⟩ <;> rw [here] at same <;> cases same
  exact ⟨fun a there => by simp [fresh.calm] at there, fun here => (apart here).elim,
    fun here => (apart here).elim⟩

theorem Fresh.inHand (fresh : m.Fresh i c) :
    InHand [] (m.books i c.queue).queue (m.books i c.queue).holding := by
  have queue : (m.books i c.queue).queue = Queue.empty := fresh.empty
  have nobody (id : Nat) : (m.books i c.queue).holding id = none := by
    rcases fresh.launches id with same | ⟨all, same⟩ <;> simp [books, same, Task.held?]
  rw [queue]
  refine ⟨Queue.sound_empty, fun k => ?_, fun here => ?_, fun k => ?_⟩
  · simp [nobody, Queue.empty, Table.contains]
  · rw [nobody] at here
    cases here
  · simp [Queue.empty, Table.contains]

theorem Fresh.counted (fresh : m.Fresh i c) :
    Counted c.backoff.base c.backoff.max [] (m.books i c.queue).backoff := by
  have backoff : (m.books i c.queue).backoff = c.backoff := backoffOf_of_found fresh.member
  rw [backoff]
  refine ⟨rfl, rfl, fun k => ?_⟩
  simp [Backoff.failuresOf, fresh.clean, inARow, resultsOf]

/-- What every run of a machine comes to for the workers of a controller. -/
theorem Fresh.played (fresh : m.Fresh i c) (moves : List Move) :
    (m.played moves).Tended m.controllers i c ∧ (m.played moves).Called ∧
      InHand (m.log i c.queue moves) ((m.played moves).books i c.queue).queue
        ((m.played moves).books i c.queue).holding ∧
      Counted c.backoff.base c.backoff.max (m.log i c.queue moves)
        ((m.played moves).books i c.queue).backoff := by
  induction moves using List.reverseRecOn with
  | nil => exact ⟨fresh.tended, fresh.called, fresh.inHand, fresh.counted⟩
  | append_singleton moves move ih =>
    obtain ⟨tended, called, inHand, counted⟩ := ih
    have entry := tended.entry_moved move
    rw [played_snoc, log_snoc]
    exact ⟨tended.moved move, called.moved move, entry.inHand inHand, entry.counted counted⟩

/-- The delay that the failures in a row of a key call for. -/
def leastDelay (c : Controller) (log : List Mark) (k : Key) : Span :=
  c.backoff.delayFor (.ofNat (min (inARow (resultsOf k log)) (UInt32.size - 1)))

theorem least_of_counted {log : List Mark} {b : Books}
    (counted : Counted c.backoff.base c.backoff.max log b.backoff) : b.least = leastDelay c log := by
  funext k
  rw [leastDelay, ← counted.failures k, UInt32.ofNat_toNat]
  simp only [Books.least, Backoff.delayFor, counted.base, counted.greatest]

/-- Someone who adds a key later is ready for the first turn, woken at the instant, and ready from then
on. -/
def Calls (m : Machine) (id : Nat) (d : Deferral) : Prop :=
  match d.due with
  | none => id ∈ m.ready
  | some due => if due ≤ m.now then id ∈ m.ready else ⟨due, id⟩ ∈ m.alarms

theorem later_of_deferred {q : Nat} {d : Deferral} (there : (m.books i q).deferred id = some d) :
    m.core.task id = .later q d.key d.delay d.due := by
  simp only [books] at there
  unfold Task.deferral? at there
  split at there
  · next p k delay due here =>
    split at there
    · next ours =>
      cases there
      rw [here, ours]
    · cases there
  · cases there

theorem Called.calls (called : m.Called) {q : Nat} {d : Deferral}
    (there : (m.books i q).deferred id = some d) : m.Calls id d := by
  have waits := later_of_deferred there
  unfold Calls
  cases due : d.due with
  | none =>
    rw [due] at waits
    exact (called.fresh waits).2 (by simp)
  | some t =>
    rw [due] at waits
    dsimp only
    rcases called.due waits with alarm | ⟨come, ready⟩
    · rw [if_neg (Nat.not_le.mpr (called.ahead _ alarm))]
      exact alarm
    · rw [if_pos come]
      exact ready (by simp)

/-! ## An installed team -/

/-- A controller of an installed team is fresh if it has a new queue of its own and remembers no
failures. -/
theorem fresh_install (cl : Cluster) (jitter : Nat → Jitter) {width : Nat} (member : team[i]? = some c)
    (alone : ∀ j k, team[j]? = some k → k.queue = c.queue → j = i) (there : c.queue < 1 + width)
    (clean : c.backoff.failures = Table.empty) :
    ({ (Machine.start cl).install team width with jitter := jitter } : Machine).Fresh i c := by
  let queues : List (Queue.Dispenser Nat) := .empty :: List.replicate width .empty
  let launch : Task := .launch ((List.range team.length).map (0 + ·))
  have all : ∀ d ∈ queues, d = .empty := by
    intro d there
    rcases List.mem_cons.mp there with rfl | more
    · rfl
    · exact (List.mem_replicate.mp more).2
  refine ⟨member, alone, ?_, ?_, clean, fun id => ?_, rfl⟩
  · change c.queue < queues.length
    simp only [queues, List.length_cons, List.length_replicate]
    omega
  · change (queues.getD c.queue .empty).queue = Queue.empty
    rw [List.getD_eq_getElem?_getD]
    cases here : queues[c.queue]? with
    | none => rfl
    | some d =>
      rw [Option.getD_some, all d (List.mem_of_getElem? here)]
      rfl
  · change Array.getD #[launch] id .finished = .finished ∨ ∃ all, Array.getD #[launch] id .finished = .launch all
    cases id with
    | zero => exact .inr ⟨_, rfl⟩
    | succ id => exact .inl rfl

/-! ## The books -/

/-- The books of a controller's workers after any moves. Each key that is handed out is held by one
worker, and has been given back once for each time that it was handed out before. The failures of a key
are those of its own passes in a row, up to the greatest number. Whatever moves next is one entry: the end
of a pass gives its key back and puts it off as the result says, once or not at all, another try by the
delay that the failures of the key call for and at most a tenth more; nothing else ends a pass or puts a
key off but someone outside. And who adds a key later is called in time and adds it once. -/
theorem Fresh.inHand_counted_and_entry (fresh : m.Fresh i c) (moves : List Move) :
    let log := m.log i c.queue moves
    let n := m.played moves
    let books := n.books i c.queue
    InHand log books.queue books.holding ∧
      Counted c.backoff.base c.backoff.max log books.backoff ∧
      (∀ move, Entry (leastDelay c log) books (n.mark i c.queue move)
        ((n.moved move).books i c.queue)) ∧
      ∀ id d, books.deferred id = some d → n.Calls id d ∧
        ∀ x, (n.moved (.turn id x)).books i c.queue = books.served id d := by
  obtain ⟨tended, called, inHand, counted⟩ := fresh.played moves
  refine ⟨inHand, counted, fun move => ?_, fun id d there => ⟨called.calls there, fun x => ?_⟩⟩
  · rw [← least_of_counted counted]
    exact tended.entry_moved move
  · exact books_turn_later tended.there (later_of_deferred there)

/-- A pass over a key fails at first, then rests beyond its deadline, and asks to come again after
that. -/
def fitful (_ : Key) (count : Nat) : Pass Action :=
  match count with
  | 0 => .fail (.store (.unavailable "down"))
  | 1 => .ask (.pause (.seconds 60)) fun _ => .done .await
  | _ => .done (.requeue (.millis 700))

/-- A controller with two workers whose passes are fitful. -/
def fitfulController : Controller :=
  .fresh .accessToken .tokens [] fitful { Tuning.standard with workers := 2 } 1

/-- The machine of that controller. -/
def fitfulMachine : Machine :=
  { (Machine.start (.empty (.serial 0))).install [fitfulController] 1 with jitter := fun _ => .middle }

/-- Two passes over a key fail, the second by its deadline. A third is begun by another worker, and the
key comes again meanwhile. -/
def fitfulDay : List Move :=
  [.turn 0 .quiet, .adds 1 ⟨"dev", "git"⟩, .next .quiet, .turn 3 .quiet, .turn 3 .quiet, .turn 5 .quiet,
    .passes 105, .turn 5 .quiet, .turn 4 .quiet, .turn 4 .quiet, .passes 30000, .turn 4 .quiet,
    .turn 6 .quiet, .passes 210, .turn 6 .quiet, .turn 3 .quiet, .adds 1 ⟨"dev", "git"⟩]

theorem inHand_counted_and_entry_example :
    let books := (fitfulMachine.played fitfulDay).books 0 1
    (books.backoff.failuresOf ⟨"dev", "git"⟩).toNat = 2 ∧
      books.queue.processing.contains ⟨"dev", "git"⟩ = true ∧
      ∀ id, books.holding id = some ⟨"dev", "git"⟩ → id = 3 := by
  have alone : ∀ j k, [fitfulController][j]? = some k → k.queue = fitfulController.queue → j = 0 := by
    intro j k member _
    have inside := (List.getElem?_eq_some_iff.mp member).1
    simp only [List.length_singleton] at inside
    omega
  have fresh : fitfulMachine.Fresh 0 fitfulController :=
    fresh_install (.empty (.serial 0)) (fun _ => .middle) rfl alone (by decide) rfl
  obtain ⟨inHand, counted, _⟩ := fresh.inHand_counted_and_entry fitfulDay
  have twice : inARow (resultsOf ⟨"dev", "git"⟩ (fitfulMachine.log 0 1 fitfulDay)) = 2 := by decide +kernel
  have holds : ((fitfulMachine.played fitfulDay).books 0 1).holding 3 = some ⟨"dev", "git"⟩ := by
    decide +kernel
  refine ⟨?_, (inHand.held _).mpr ⟨3, holds⟩, fun id other => inHand.single other holds⟩
  exact (counted.failures ⟨"dev", "git"⟩).trans (congrArg (min · (UInt32.size - 1)) twice)

end Machine

end TokenSteward.Controller
