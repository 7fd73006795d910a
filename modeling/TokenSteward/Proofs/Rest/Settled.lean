import TokenSteward.Proofs.Rest.Cared

/-! # Nothing is left to do at rest

Once an operator has started and nothing is on its way, the status of every token that is not to be
deleted is the one that its specification, its record and the providers imply, whatever has come
before in whatever order, and whichever passes were given up at their deadlines. It takes that no uid
is drawn twice for tokens, that nobody but the writers changes records, that nobody but the operator
deletes or rewrites data updates, that the first listings are answered, and that no provider refuses a
validation.
-/

namespace TokenSteward

open TokenSteward.Cluster TokenSteward.Resource TokenSteward.Secret TokenSteward.Provider
open TokenSteward.Controller

/-- No key waits, is marked, or is handed out. -/
def Queue.Idle (q : Queue) : Prop :=
  q.waiting = [] ∧ q.marked = Table.empty ∧ q.processing = Table.empty

instance (q : Queue) : Decidable q.Idle :=
  inferInstanceAs (Decidable (q.waiting = [] ∧ q.marked = Table.empty ∧ q.processing = Table.empty))

/-- A task has nothing on its way: it has started what it was to start, has seen and brought in every
change that it follows, has brought in its first listing, and adds no key later. -/
def Controller.Task.isAtRest (c : Cluster) (listed : List Nat) (id : Nat) : Task → Bool
  | .launch _ | .later _ _ _ _ => false
  | .watch _ w seen doing => doing.isNone && decide (w.source.published c ≤ seen)
  | .resync _ _ _ => listed.contains id
  | _ => true

/-- A pass has come to a good end. -/
def Pass.isDone {α : Type} : Pass α → Bool
  | .done _ => true
  | _ => false

instance decidableMustList (listed : List Nat) (id : Nat) : (t : Task) →
    Decidable (MustList listed id t)
  | .resync _ _ (some _) => inferInstanceAs (Decidable (id ∉ listed))
  | .watch _ w _ (some _) => inferInstanceAs (Decidable (w.mapper = .own))
  | .resync _ _ none | .watch _ _ _ none | .launch _ | .supervise _ | .worker _ _ | .later _ _ _ _
  | .getter _ | .got _ | .finished => inferInstanceAs (Decidable False)

namespace Works

/-- Nothing is on its way in the works. -/
def Quiet (w : Works) : Prop :=
  (∀ q < w.machine.queues.length, (w.machine.queue q).queue.Idle) ∧
    ∀ id < w.machine.tasks.size, (w.task id).isAtRest w.machine.cluster w.listed id = true

instance (w : Works) : Decidable w.Quiet :=
  inferInstanceAs (Decidable (_ ∧ _))

/-- Nothing is on its way in the works, and every writer has come to a good end. -/
def AtRest (w : Works) : Prop :=
  (∀ q < w.machine.queues.length, (w.machine.queue q).queue.Idle) ∧
    (∀ id < w.machine.tasks.size, (w.task id).isAtRest w.machine.cluster w.listed id = true) ∧
    ∀ p ∈ w.writers, p.isDone = true

instance (w : Works) : Decidable w.AtRest :=
  inferInstanceAs (Decidable (_ ∧ _ ∧ _))

/-- A turn is calm if a listing that is relied upon is not refused, no provider refuses a validation
that a task asks for, and who is outside asks for nothing but what others may ask for. -/
def Calm (others : Request → Bool) (word : Word) (w : Works) : Turn → Prop
  | .task id refusal _ => (MustList w.listed id (w.task id) → refusal = none) ∧
      ∀ r ∈ (w.task id).request?, unrefused word r = true
  | .outside r => others r = true
  | _ => True

instance decidableCalm (others : Request → Bool) (word : Word) (w : Works) : (t : Turn) →
    Decidable (Calm others word w t)
  | .task _ _ _ => inferInstanceAs (Decidable (_ ∧ _))
  | .outside _ => inferInstanceAs (Decidable (_ = true))
  | .late _ | .writes _ _ | .erases _ | .writer _ _ _ | .passes _ | .clock _ =>
    inferInstanceAs (Decidable True)

end Works

/-- What anyone may ask for besides the operator and the writers: anything but a change of a record,
and but to delete or rewrite a data update. -/
def leavesAlone : Request → Bool
  | .vault (.store _ _) | .vault (.delete _) | .updates (.update _) | .updates (.delete _) => false
  | _ => true

theorem spares_of_leavesAlone {r : Request} (leaves : leavesAlone r = true) (k : Key) :
    SparesUpdate k r := by
  constructor
  · rintro rfl
    contradiction
  · rintro o rfl
    contradiction

theorem view_of_leavesAlone {r : Request} (leaves : leavesAlone r = true) (c : Cluster) (x : Chance)
    {k : Key} (tokens : (c.answer x r).2.tokens.get? k = c.tokens.get? k) :
    (c.answer x r).2.view k = c.view k := by
  apply Cluster.view_of_tokens tokens
  intro t _ _
  by_cases vault : ∃ v, r = .vault v
  · obtain ⟨v, rfl⟩ := vault
    cases v with
    | store owner record => contradiction
    | get owner =>
      simp only [Cluster.answer]
      split <;> rfl
    | delete owner => contradiction
  · rw [Cluster.vault_answer c x r fun v same => vault ⟨v, same⟩]

namespace Works

variable {d : Desks} {word : Word} {w : Works}

/-- What every calm turn keeps. -/
structure Steward (d : Desks) (word : Word) (w : Works) : Prop where
  running : Running d.team w
  orderly : Orderly w.machine.core
  writing : ∀ p ∈ w.writers, Announced.Writing p
  cared : ∀ k, Cared d word w.machine.core w.listed w.writers k

theorem Steward.watched_tokens (steward : Steward d word w) :
    Watched d.tokenController 0 w.machine.core (Source.tokens.published w.machine.cluster) :=
  steward.running.watched (i := 0) rfl

theorem Steward.watched_updates (steward : Steward d word w) :
    Watched d.updateController 2 w.machine.core (Source.updates.published w.machine.cluster) :=
  steward.running.watched (i := 2) rfl

/-- What is in a list stays there if something else is put in another's place. -/
theorem mem_set_of_ne {α : Type} {l : List α} {i : Nat} {a b : α} (here : l[i]? = some b)
    (present : a ∈ l) (other : a ≠ b) (c : α) : a ∈ l.set i c := by
  obtain ⟨j, there⟩ := List.mem_iff_getElem?.mp present
  have apart : i ≠ j := by
    rintro rfl
    exact other (Option.some.inj (there.symm.trans here))
  exact List.mem_iff_getElem?.mpr ⟨j, by rw [List.getElem?_set_ne apart]; exact there⟩

/-- A writer that goes on keeps everything. -/
theorem Steward.writer (steward : Steward d word w) (x : Chance) {i : Nat} {r : Request}
    {next : r.Answer → Pass Unit} (here : w.writers[i]? = some (.ask r next)) :
    Steward d word { w.withCluster (w.machine.cluster.answer x r).2 with
      writers := w.writers.set i (next (w.machine.cluster.answer x r).1) } := by
  have writing := steward.writing _ (List.mem_of_getElem? here)
  have answered := steward.running.answer x r
  have sound := steward.running.kept.sound
  have inside : i < w.writers.length := (List.getElem?_eq_some_iff.mp here).1
  have new : next (w.machine.cluster.answer x r).1 ∈
      w.writers.set i (next (w.machine.cluster.answer x r).1) :=
    List.mem_set inside _
  refine ⟨⟨answered.staffed, answered.flight, answered.manned, answered.kept, answered.old,
    answered.watched⟩, steward.orderly.answer steward.running.kept x writing.spares,
    fun p present => ?_, fun k => ?_⟩
  · rcases List.mem_or_eq_of_mem_set present with old | rfl
    · exact steward.writing p old
    · exact writing.answered _
  · rcases writing.view (x := x) sound k with same | ⟨owner, key, announces⟩
    · have cared := (steward.cared k).answer sound writing.spares steward.watched_tokens fun _ => same
      refine cared.of_writers (fun owner announces key => ?_) fun f fails => ?_
      · by_cases mine : .ask r next = Announced.announce owner
        · right
          rcases Announced.announced (c := w.machine.cluster) (x := x) mine with
            ⟨f, fails⟩ | ⟨uk, absent, names⟩
          · have failed : .fail f ∈ w.writers.set i (next (w.machine.cluster.answer x r).1) := by
              rw [← fails]
              exact new
            exact .failed failed
          · rw [key] at names
            exact .triggered (.created steward.orderly sound absent names steward.watched_updates)
        · exact .inl (mem_set_of_ne here announces (Ne.symm mine) _)
      · exact mem_set_of_ne here fails (fun same => nomatch same) _
    · refine .announcing key ?_
      rw [← announces]
      exact new

/-- A writer that joins keeps everything. -/
theorem Steward.joined (steward : Steward d word w) {p : Pass Unit} (writing : Announced.Writing p) :
    Steward d word { w with writers := w.writers ++ [p] } := by
  refine ⟨⟨steward.running.staffed, steward.running.flight, steward.running.manned,
    steward.running.kept, steward.running.old, steward.running.watched⟩, steward.orderly,
    forall_mem_snoc steward.writing writing, ?_⟩
  intro k
  apply (steward.cared k).of_writers
  · exact fun owner announces _ => .inl (List.mem_append_left _ announces)
  · exact fun f fails => List.mem_append_left _ fails

/-- Every calm turn keeps everything. -/
theorem Steward.after (steward : Steward d word w) {t : Turn} (calm : Calm leavesAlone word w t) :
    Steward d word (w.after word t) := by
  have running : Running d.team (w.after word t) := steward.running.after t
  have kept := steward.running.kept
  cases t with
  | task id refusal outage =>
    have flight := steward.running.flight
    have step := Machine.taskStep_turn steward.running.staffed flight.opened id ⟨refusal, outage, word⟩
    refine ⟨running, steward.orderly.taskStep flight kept step, steward.writing, ?_⟩
    intro k
    exact (steward.cared k).taskStep step steward.orderly flight steward.running.manned kept
      steward.running.old steward.watched_tokens rfl calm.1 fun _ => calm.2
  | late id =>
    simp only [Works.after]
    rcases late_cases steward.running id ⟨none, none, word⟩ with same | ⟨running, listed, step, idle⟩
    · rwa [same]
    · -- a pass that is given up need not have been answered
      have flight := steward.running.flight
      refine ⟨running, steward.orderly.taskStep flight kept step, steward.writing, fun k => ?_⟩
      have cared := (steward.cared k).taskStep step steward.orderly flight steward.running.manned kept
        steward.running.old steward.watched_tokens rfl (fun _ => rfl) fun going => by
          rw [idle] at going
          contradiction
      have listed : listedAfter w.listed id (w.machine.core.task id) = w.listed := listed
      rwa [listed] at cared
  | writes owner r => exact steward.joined (.stores owner r)
  | erases owner => exact steward.joined (.erases owner)
  | writer i refusal outage =>
    simp only [Works.after]
    split
    · next r next here => exact steward.writer _ here
    · exact steward
  | outside r =>
    refine ⟨running, steward.orderly.answer kept .quiet (spares_of_leavesAlone calm), steward.writing,
      fun k => ?_⟩
    exact (steward.cared k).answer kept.sound (spares_of_leavesAlone calm) steward.watched_tokens
      (view_of_leavesAlone calm _ _)
  | passes now => exact ⟨running, steward.orderly, steward.writing, steward.cared⟩
  | clock now =>
    exact ⟨running, steward.orderly.clock now, steward.writing, fun k => (steward.cared k).clock now⟩

/-- At the start every key comes up. -/
theorem steward_start (d : Desks) {c : Cluster} (kept : c.Kept)
    (unique : Function.Injective c.tokens.draws.uid) (jitter : Nat → Jitter) (word : Word) :
    Steward d word (start d.operator c jitter) := by
  refine ⟨d.running_start jitter kept, d.orderly_start unique jitter, ?_, ?_⟩
  · intro p present
    exact (List.not_mem_nil present).elim
  · intro k
    refine .coming (.inr ⟨0, ?_⟩)
    rw [d.start_task]
    exact .launch (by simp)

theorem AtRest.quiet (rest : w.AtRest) : w.Quiet := ⟨rest.1, rest.2.1⟩

theorem Quiet.idle (quiet : w.Quiet) (q : Nat) : (w.machine.core.queue q).Idle := by
  by_cases inside : q < w.machine.queues.length
  · exact quiet.1 q inside
  · have none : w.machine.core.queue q = .empty := by
      simp [Machine.core, Machine.queue, List.getD, inside, Queue.Dispenser.empty]
    rw [none]
    exact ⟨rfl, rfl, rfl⟩

theorem Quiet.task_isAtRest (quiet : w.Quiet) (id : Nat) :
    (w.machine.core.task id).isAtRest w.machine.cluster w.listed id = true := by
  by_cases inside : id < w.machine.tasks.size
  · exact quiet.2 id inside
  · have none : w.machine.core.task id = .finished :=
      w.machine.fits_core id (Nat.not_lt.mp inside)
    rw [none]
    rfl

/-- When nothing is on its way, nothing comes up. -/
theorem Quiet.not_coming (quiet : w.Quiet) {c : Controller} {i : Nat} {k : Key} :
    ¬ Coming c i w.machine.core w.listed k := by
  rintro (marked | ⟨id, brings⟩)
  · obtain ⟨_, none, _⟩ := quiet.idle c.queue
    rw [none] at marked
    contradiction
  · have still := quiet.task_isAtRest id
    generalize w.machine.core.task id = t at brings still
    cases brings with
    | launch => contradiction
    | later => contradiction
    | unseen ahead about =>
      have early := Source.lt_published_of_told about
      simp only [Task.isAtRest, Bool.and_eq_true, decide_eq_true_eq] at still
      have seen : c.source.published w.machine.core.cluster ≤ _ := still.2
      omega
    | relists => contradiction
    | holds => contradiction
    | unlisted first => exact first (List.contains_iff_mem.mp still)
    | lists first => exact first (List.contains_iff_mem.mp still)
    | found first => exact first (List.contains_iff_mem.mp still)

/-- When nothing is on its way, no worker is over a key. -/
theorem Quiet.not_busy (quiet : w.Quiet) {team : List Controller} (flight : Flight team w.machine.core)
    {c : Controller} {id i since : Nat} {k : Key} {p : Pass Action} {resting : Option Nat}
    (member : team[i]? = some c) :
    w.machine.core.task id ≠ .worker i (.busy k p since resting) := by
  intro busy
  obtain ⟨_, _, none⟩ := quiet.idle c.queue
  have held := flight.held ⟨_, _, _, busy⟩ member
  rw [none] at held
  contradiction

/-- At rest nothing is left to do. -/
theorem Steward.settled (steward : Steward d word w) (rest : w.AtRest) (k : Key) :
    d.tokens.Settled word (w.machine.cluster.view k) := by
  have flight := steward.running.flight
  have quiet := rest.quiet
  have good {p : Pass Unit} (present : p ∈ w.writers) : p.isDone = true := rest.2.2 p present
  cases steward.cared k with
  | coming coming => exact absurd coming quiet.not_coming
  | promised busy => exact absurd busy (quiet.not_busy flight (i := 0) rfl)
  | triggered triggered =>
    rcases triggered.wakes with coming | ⟨id, since, p, resting, busy, _⟩
    · exact absurd coming quiet.not_coming
    · exact absurd busy (quiet.not_busy flight (i := 2) rfl)
  | announcing _ announces =>
    have ended := good announces
    rw [Announced.announce_eq] at ended
    contradiction
  | failed fails =>
    have ended := good fails
    contradiction
  | settled settled => exact settled

/-- Once an operator of checked settings is at rest, a pass over a token that is not to be deleted ends
well and changes nothing at any time, if nothing fails: the token's status is the one that is
implied. -/
theorem settled_at_rest {registry : Registry} {s : Settings} {o : Operator}
    (built : Operator.ofSettings registry s 1 = .ok o) {outset : Cluster.Outset}
    (unique : Function.Injective outset.tokens.uid) {before : Cluster}
    (later : (Cluster.empty outset).Later before) (jitter : Nat → Jitter) {word : Word}
    {turns : List Turn} (calm : Along word (Calm leavesAlone word) (start o before jitter) turns)
    {c : Cluster} (reached : (run word (start o before jitter) turns).machine.cluster = c)
    (rest : (run word (start o before jitter) turns).AtRest) {k : Key} {t : AccessToken}
    (stored : c.tokens.get? k = some t) (alive : t.isDeleting = false) :
    (∀ (count : Nat) (now : Int64), (o.tokens.reconcile k count).alone (.calm word)
        { c with clock := now } = (.ok .await, { c with clock := now })) ∧
      ∃ desk : TokenDesk, desk.registry = registry ∧ s.linkBuilder? = .ok desk.links ∧
        desk.Implied word t (c.vault.get? (VaultKey.ofOwner t)) t.status := by
  obtain ⟨d, rfl, known, -, links⟩ := Desks.exists_desks built
  have kept := (Cluster.kept_empty outset).later later
  have steward : Steward d word (run word (start d.operator before jitter) turns) :=
    run_induction (steward_start d kept (later.draws.symm ▸ unique) jitter word)
      (fun w t steward calm => steward.after calm) calm
  have settled := steward.settled rest k
  rw [reached] at settled
  have view : c.view k = some (t, c.vault.get? (VaultKey.ofOwner t)) := by
    rw [Cluster.view, stored]
    simp [alive]
  rw [view] at settled
  obtain ⟨guarded, implied⟩ := settled
  exact ⟨fun count now => TokenDesk.alone_pass (c := { c with clock := now }) stored alive guarded implied,
    d.tokens, known, links, implied⟩

/-! ## A run that comes to rest, and one that rests too early -/

/-- A provider that finds every credential good. -/
def agreeable : Word
  | _, .validate _ _ => .ok ⟨[]⟩
  | _, .lookup _ => .ok none
  | _, .persist _ _ => .ok ⟨"octocat", "1", [], []⟩

/-- Settings with one worker for each controller. -/
def fewWorkers : Settings := { Settings.standard with workers := 1 }

/-- The registry of that provider. -/
def oneProvider : Registry := [⟨default, "https://git.example", fun _ => []⟩]

/-- The desks of an operator with these settings. -/
def fewDesks : Desks := ⟨⟨oneProvider, none, .seconds 5⟩, ⟨oneProvider⟩, fewWorkers.tuning⟩

theorem ofSettings_fewWorkers :
    Operator.ofSettings oneProvider fewWorkers 1 = .ok fewDesks.operator := rfl

/-- The works of that operator over an empty cluster. -/
abbrev fewWorks : Works := start fewDesks.operator (.empty (.serial 0)) fun _ => .middle

/-- A token of that provider. -/
def restingToken : AccessToken :=
  .fresh (Metadata.named "dev" "git") "https://git.example" Permissions.none

/-- Tasks at turn one after the other, and nothing is refused. -/
def tasksTurn (ids : List Nat) : List Turn := ids.map fun id => .task id none none

/-- The operator is launched and looks at the token, and then its record is stored and announced. -/
def announcedRecord : List Turn :=
  .outside (.tokens (.create restingToken)) :: tasksTurn [0, 3, 3, 3, 4, 4, 4, 4, 2, 4, 2, 4, 4, 5, 7,
    10, 4, 5, 7, 10, 4, 5, 7, 10] ++
  [.writes { restingToken with metadata.uid := "<uid:t1>" } .blank, .writer 0 none none,
    .writer 0 none none]

/-- The announcement is seen, and the token is looked at again. The deadline comes before its status is
written, so it is looked at once more after a while. -/
def noticedRecord : List Turn :=
  announcedRecord ++ tasksTurn [9, 9, 11, 11, 11, 4, 4, 4, 4] ++ .late 4 ::
    tasksTurn [11, 9, 11, 9, 11, 11, 12] ++ .passes 105 ::
    tasksTurn [12, 4, 4, 4, 4, 4, 4, 2, 2, 5, 5, 5, 11, 4, 4, 4, 4, 4, 4, 4, 4]

theorem settled_at_rest_example :
    ∃ t ∈ (run agreeable fewWorks noticedRecord).machine.cluster.tokens.get? restingToken.key,
      t.status.phase = .ready ∧
      (∀ (count : Nat) (now : Int64),
        (fewDesks.operator.tokens.reconcile restingToken.key count).alone (.calm agreeable)
            { (run agreeable fewWorks noticedRecord).machine.cluster with clock := now } =
          (.ok .await, { (run agreeable fewWorks noticedRecord).machine.cluster with clock := now })) ∧
      ∃ desk : TokenDesk, desk.registry = oneProvider ∧ fewWorkers.linkBuilder? = .ok desk.links ∧
        desk.Implied agreeable t ((run agreeable fewWorks noticedRecord).machine.cluster.vault.get?
          (VaultKey.ofOwner t)) t.status := by
  obtain ⟨t, stored, alive, ready⟩ :
      ∃ t ∈ (run agreeable fewWorks noticedRecord).machine.cluster.tokens.get? restingToken.key,
        t.isDeleting = false ∧ t.status.phase = .ready := by decide +kernel
  have calm : Along agreeable (Calm leavesAlone agreeable) fewWorks noticedRecord := by decide +kernel
  have rest : (run agreeable fewWorks noticedRecord).AtRest := by decide +kernel
  rw [Option.mem_def] at stored
  generalize reached : run agreeable fewWorks noticedRecord = w at stored rest ⊢
  exact ⟨t, stored, ready, settled_at_rest ofSettings_fewWorkers
    (fun _ _ => Draws.uid_numbered_injective) .now _ calm (congrArg (fun w => w.machine.cluster) reached)
    (reached ▸ rest) stored alive⟩

/-- The same announcement is deleted by someone else before the operator has read it. -/
def missedRecord : List Turn :=
  announcedRecord ++ .outside (.updates (.delete ⟨"dev", "token-data-update-<u1>"⟩)) ::
    tasksTurn [9, 9, 11, 11, 9, 11, 9, 11, 11, 11]

/-- What anyone may ask for who does not change records. -/
def sparesRecords : Request → Bool
  | .vault (.store _ _) | .vault (.delete _) => false
  | _ => true

/-- If an announcement is deleted by someone else, a token can be left unsettled at rest. -/
theorem exists_unsettled_at_rest :
    ¬ ∀ (registry : Registry) (s : Settings) (o : Operator) (outset : Cluster.Outset)
        (jitter : Nat → Jitter) (word : Word) (turns : List Turn) (k : Key) (t : AccessToken),
      Operator.ofSettings registry s 1 = .ok o → Function.Injective outset.tokens.uid →
      Along word (Calm sparesRecords word) (start o (.empty outset) jitter) turns →
      (run word (start o (.empty outset) jitter) turns).AtRest →
      (run word (start o (.empty outset) jitter) turns).machine.cluster.tokens.get? k = some t →
      t.isDeleting = false →
      (o.tokens.reconcile k 0).alone (.calm word)
          (run word (start o (.empty outset) jitter) turns).machine.cluster =
        (.ok .await, (run word (start o (.empty outset) jitter) turns).machine.cluster) := by
  intro always
  obtain ⟨t, stored, alive⟩ :
      ∃ t ∈ (run agreeable fewWorks missedRecord).machine.cluster.tokens.get? restingToken.key,
        t.isDeleting = false := by decide +kernel
  have rest : (run agreeable fewWorks missedRecord).AtRest := by decide +kernel
  have changes : ((fewDesks.operator.tokens.reconcile restingToken.key 0).alone (.calm agreeable)
      (run agreeable fewWorks missedRecord).machine.cluster).2.tokens.get? restingToken.key ≠
    (run agreeable fewWorks missedRecord).machine.cluster.tokens.get? restingToken.key := by
    decide +kernel
  rw [Option.mem_def] at stored
  have same := always oneProvider fewWorkers fewDesks.operator (.serial 0) (fun _ => .middle) agreeable
    missedRecord restingToken.key t ofSettings_fewWorkers (fun _ _ => Draws.uid_numbered_injective)
    (by decide +kernel)
  generalize run agreeable fewWorks missedRecord = w at stored rest changes same
  exact changes (congrArg (fun left => left.2.tokens.get? restingToken.key) (same rest stored alive))

end Works

end TokenSteward
