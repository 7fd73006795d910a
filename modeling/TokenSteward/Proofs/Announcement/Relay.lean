import Mathlib.Data.List.Induction
import TokenSteward.Proofs.Queue.Course
import TokenSteward.Proofs.Rest.Writers

/-! # Announcements on their way

Writers announce records, passes tell the tokens' queue of the data updates that they read and delete
these, and workers take tokens from the queue: all in any order. Any number of passes may be over one
data update. A request may fail, even after it was carried out, and a pass may be given up at any point.
A name that is free again may be made up again. So a pass that has read a data update can come to delete
a later one of the same name.
-/

namespace TokenSteward

open TokenSteward.Cluster TokenSteward.Resource TokenSteward.Secret TokenSteward.Queue

/-- What is heard in place of an answer that was lost on its way. -/
structure Loss where
  store : Option StoreFailure
  vault : Option VaultFailure

/-- All answers arrive. -/
def Loss.none : Loss := ⟨.none, .none⟩

/-- What is heard of an answer. -/
def Loss.heard (l : Loss) : (r : Request) → r.Answer → r.Answer
  | .updates _, a => l.store.elim a .error
  | .vault _, a => l.vault.elim a .error
  | _, a => a

/-- A cluster, the tokens' queue, the writers of announced records, and the passes over data
updates. -/
structure Relay where
  cluster : Cluster
  queue : Queue
  writers : List (Pass Unit)
  passes : List (Pass Action)

namespace Relay

/-- A move of a run. A writer begins to store a record, or to remove it if none is given, or goes on; a
pass over a data update begins, goes on, or is given up; someone calls the tokens' queue, or asks for
something; the clock is set. Writers and passes are known by the order in which they began. -/
inductive Move where
  | writes (owner : AccessToken) (record : Option Record)
  | writer (i : Nat) (x : Chance) (l : Loss)
  | begins (k : Key)
  | pass (i : Nat) (x : Chance) (l : Loss)
  | drops (i : Nat)
  | call (c : Call)
  | outside (r : Request)
  | time (clock : Int64)

/-- Nobody closes the tokens' queue, and nobody else deletes or rewrites data updates. -/
def Move.minds : Move → Bool
  | .call .close | .outside (.updates (.update _)) | .outside (.updates (.delete _)) => false
  | _ => true

/-- Neither anyone outside nor the clock comes in, and the tokens' queue stays open. -/
def Move.isOwn : Move → Bool
  | .call .close | .outside _ | .time _ => false
  | _ => true

/-- Nobody closes the tokens' queue, and nobody else deletes data updates. -/
def Move.deletesNone : Move → Bool
  | .call .close | .outside (.updates (.delete _)) => false
  | _ => true

/-- The writer that a move lets go on. -/
def Move.writer? : Move → Option Nat
  | .writer i _ _ => some i
  | _ => none

variable (d : UpdateDesk)

/-- The calls of the tokens' queue that a request comes to. -/
def callsOf : Request → List Call
  | .enqueue q k => if q = d.tokenQueue then [.add k] else []
  | _ => []

/-- The calls of the tokens' queue at a move. -/
def calls (t : Relay) : Move → List Call
  | .call c => [c]
  | .pass i _ _ =>
    match t.passes[i]? with
    | some (.ask r _) => callsOf d r
    | _ => []
  | _ => []

/-- The writer of a record, or of its removal. -/
def begun (owner : AccessToken) : Option Record → Pass Unit
  | some r => Announced.store owner r
  | none => Announced.delete owner

/-- What a move makes of all but the queue. -/
def moved (t : Relay) : Move → Relay
  | .writes owner record => { t with writers := t.writers ++ [begun owner record] }
  | .writer i x l =>
    match t.writers[i]? with
    | some (.ask r next) => { t with
        cluster := (t.cluster.answer x r).2
        writers := t.writers.set i (next (l.heard r (t.cluster.answer x r).1)) }
    | _ => t
  | .begins k => { t with passes := t.passes ++ [d.pass k] }
  | .pass i x l =>
    match t.passes[i]? with
    | some (.ask r next) => { t with
        cluster := (t.cluster.answer x r).2
        passes := t.passes.set i (next (l.heard r (t.cluster.answer x r).1)) }
    | _ => t
  | .drops i => { t with passes := t.passes.set i (.fail (.cancelled "")) }
  | .call _ => t
  | .outside r => { t with cluster := (t.cluster.answer .quiet r).2 }
  | .time clock => { t with cluster := { t.cluster with clock := clock } }

/-- What a move makes of the relay. -/
def after (t : Relay) (m : Move) : Relay :=
  { t.moved d m with queue := t.queue.after (t.calls d m) }

/-- The relay after some moves. -/
def through (t : Relay) (moves : List Move) : Relay := moves.foldl (after d) t

/-- The calls of the tokens' queue by some moves. -/
def callsAlong : Relay → List Move → List Call
  | _, [] => []
  | t, m :: rest => t.calls d m ++ callsAlong (t.after d m) rest

/-- The number of the writer that begins next. -/
def nextWriter (t : Relay) : Nat := t.writers.length

/-- Nothing is stored, and nobody has begun. -/
def start (outset : Cluster.Outset) : Relay := ⟨.empty outset, .empty, [], []⟩

/-- The relay after some moves from the start. -/
def run (outset : Cluster.Outset) (moves : List Move) : Relay := (start outset).through d moves

variable {d} {t : Relay} {m : Move}

theorem through_append (first second : List Move) :
    t.through d (first ++ second) = (t.through d first).through d second := by
  simp only [through, List.foldl_append]

@[simp] theorem through_nil : t.through d [] = t := rfl

@[simp] theorem through_cons (moves : List Move) :
    t.through d (m :: moves) = (t.after d m).through d moves :=
  rfl

theorem through_snoc (moves : List Move) :
    t.through d (moves ++ [m]) = (t.through d moves).after d m := by
  simp only [through_append, through_cons, through_nil]

theorem callsAlong_append (first second : List Move) :
    t.callsAlong d (first ++ second) =
      t.callsAlong d first ++ (t.through d first).callsAlong d second := by
  induction first generalizing t with
  | nil => rfl
  | cons m first ih => simp only [List.cons_append, callsAlong, ih, through_cons, List.append_assoc]

/-- The queue is what the calls have made of it. -/
theorem queue_through (moves : List Move) :
    (t.through d moves).queue = t.queue.after (t.callsAlong d moves) := by
  induction moves generalizing t with
  | nil => rfl
  | cons m moves ih => rw [through_cons, ih, callsAlong, after_append]; rfl

/-! ## What is asked -/

/-- The request that a move has carried out, unless it fails by chance. -/
inductive Serves (t : Relay) : Move → Chance → Request → Prop where
  | writer {i : Nat} {x : Chance} {l : Loss} {r : Request} {next : r.Answer → Pass Unit}
      (asks : t.writers[i]? = some (.ask r next)) : Serves t (.writer i x l) x r
  | pass {i : Nat} {x : Chance} {l : Loss} {r : Request} {next : r.Answer → Pass Action}
      (asks : t.passes[i]? = some (.ask r next)) : Serves t (.pass i x l) x r
  | outside {r : Request} : Serves t (.outside r) .quiet r

/-- A move leaves the cluster as it is but for the clock, or has a request carried out. -/
theorem after_cases (t : Relay) (m : Move) :
    (∃ clock, (t.after d m).cluster = { t.cluster with clock := clock }) ∨
      ∃ x r, t.Serves m x r ∧ (t.after d m).cluster = (t.cluster.answer x r).2 := by
  have same : t.cluster = { t.cluster with clock := t.cluster.clock } := rfl
  cases m with
  | writer i x l =>
    simp only [after, moved]
    split
    · next r next asks => exact .inr ⟨x, r, .writer asks, rfl⟩
    · exact .inl ⟨_, same⟩
  | pass i x l =>
    simp only [after, moved]
    split
    · next r next asks => exact .inr ⟨x, r, .pass asks, rfl⟩
    · exact .inl ⟨_, same⟩
  | outside r => exact .inr ⟨_, r, .outside, rfl⟩
  | time clock => exact .inl ⟨clock, rfl⟩
  | writes owner record => exact .inl ⟨_, same⟩
  | begins k => exact .inl ⟨_, same⟩
  | drops i => exact .inl ⟨_, same⟩
  | call c => exact .inl ⟨_, same⟩

/-- How far a pass over the data update at a key can have come. -/
inductive Stage (d : UpdateDesk) (k : Key) : Pass Action → Prop where
  | starts : Stage d k (d.pass k)
  | tells (token : Key) : Stage d k (d.telling k token)
  | closes : Stage d k (UpdateDesk.closing k)
  | done (a : Action) : Stage d k (.done a)
  | failed (f : Failure) : Stage d k (.fail f)

/-- Of a request to the updates' store a failure is heard, or what the store has answered. -/
theorem heard_updates_cases (l : Loss) (c : Cluster) (x : Chance)
    (s : StoreRequest DataUpdateSpec Unit) :
    (∃ f, l.heard (.updates s) (c.answer x (.updates s)).1 = .error f) ∨
      (l.heard (.updates s) (c.answer x (.updates s)).1 = (c.updates.perform c.now s).1 ∧
        (c.answer x (.updates s)).2.updates = (c.updates.perform c.now s).2) := by
  simp only [Loss.heard]
  cases l.store with
  | some f => exact .inl ⟨f, rfl⟩
  | none => exact (Cluster.answer_updates_cases c x s).imp_left fun ⟨f, failed⟩ => ⟨f, by rw [failed]; rfl⟩

theorem closing_injective {k j : Key} (same : UpdateDesk.closing k = UpdateDesk.closing j) : k = j := by
  injection same with same
  injection same with same
  injection same

theorem telling_injective {k j token other : Key} (same : d.telling k token = d.telling j other) :
    k = j ∧ token = other := by
  injection same with asked next
  injection asked with _ told
  exact ⟨closing_injective (congrFun next ()), told⟩

/-- What a pass comes to with the answer to a request. -/
theorem Stage.next_cases {c : Cluster} {k : Key} {r : Request} {next : r.Answer → Pass Action}
    (stage : Stage d k (.ask r next)) (x : Chance) (l : Loss) :
    ((∃ a, next (l.heard r (c.answer x r).1) = .done a) ∨
        ∃ f, next (l.heard r (c.answer x r).1) = .fail f) ∨
      (∃ u, c.updates.get? k = some u ∧
        next (l.heard r (c.answer x r).1) = d.telling k (DataUpdate.token u)) ∨
      ∃ token, r = .enqueue d.tokenQueue token ∧ .ask r next = d.telling k token ∧
        next (l.heard r (c.answer x r).1) = UpdateDesk.closing k := by
  generalize asks : Pass.ask r next = p at stage
  cases stage with
  | starts =>
    rw [UpdateDesk.pass_eq] at asks
    cases asks
    rcases heard_updates_cases l c x (.get k) with ⟨f, failed⟩ | ⟨answered, -⟩
    · rw [failed]
      exact .inl (.inr ⟨_, rfl⟩)
    · rw [answered, Store.perform]
      cases here : c.updates.get? k with
      | none => exact .inl (.inl ⟨_, rfl⟩)
      | some u => exact .inr (.inl ⟨u, rfl, rfl⟩)
  | tells token =>
    cases asks
    exact .inr (.inr ⟨token, rfl, rfl, rfl⟩)
  | closes =>
    cases asks
    generalize Loss.heard l _ _ = answer
    rcases answer with f | u
    · by_cases gone : f.isNotFound = true
      · exact .inl (.inl ⟨.await, if_pos gone⟩)
      · exact .inl (.inr ⟨_, if_neg gone⟩)
    · exact .inl (.inl ⟨.await, rfl⟩)
  | done a => cases asks
  | failed f => cases asks

/-- Whatever is heard, a pass goes on as it should. -/
theorem Stage.answered {c : Cluster} {k : Key} {r : Request} {next : r.Answer → Pass Action}
    (stage : Stage d k (.ask r next)) (x : Chance) (l : Loss) :
    Stage d k (next (l.heard r (c.answer x r).1)) := by
  rcases stage.next_cases (c := c) x l with (⟨a, ends⟩ | ⟨f, fails⟩) | ⟨u, -, tells⟩ | ⟨_, -, -, closes⟩
  · rw [ends]
    exact .done a
  · rw [fails]
    exact .failed f
  · rw [tells]
    exact .tells _
  · rw [closes]
    exact .closes

/-- What every move keeps: writers and passes go on as they should, and the tokens' queue is open and
mindful. -/
structure Sensible (d : UpdateDesk) (t : Relay) : Prop where
  sound : t.cluster.Sound
  writing : ∀ p ∈ t.writers, Announced.Writing p
  reading : ∀ p ∈ t.passes, ∃ k, Stage d k p
  opened : t.queue.closed = false
  mindful : t.queue.Mindful

theorem sensible_start (d : UpdateDesk) (outset : Cluster.Outset) : Sensible d (start outset) :=
  ⟨Cluster.sound_empty outset, List.forall_mem_nil _, List.forall_mem_nil _, rfl, mindful_empty⟩

/-- A move keeps the cluster sound. -/
theorem Sensible.sound_after (sensible : Sensible d t) (m : Move) : (t.after d m).cluster.Sound := by
  have sound := sensible.sound
  rcases t.after_cases (d := d) m with ⟨clock, same⟩ | ⟨x, r, -, served⟩
  · rw [same]
    exact ⟨sound.tokens, sound.bindings, sound.updates⟩
  · rw [served]
    exact sound.answer x r

/-- Nobody calls for the end of the queue. -/
theorem calls_going (minds : m.minds = true) : .close ∉ t.calls d m := by
  cases m with
  | call c =>
    cases c with
    | close => cases minds
    | add k => simp [calls]
    | take => simp [calls]
    | done k => simp [calls]
  | pass i x l =>
    simp only [calls]
    split
    · simp only [callsOf]
      split
      · split <;> simp
      · simp
    · simp
  | writes owner record => simp [calls]
  | writer i x l => simp [calls]
  | begins k => simp [calls]
  | drops i => simp [calls]
  | outside r => simp [calls]
  | time clock => simp [calls]

theorem Sensible.writing_after (sensible : Sensible d t) (m : Move) :
    ∀ p ∈ (t.after d m).writers, Announced.Writing p := by
  cases m with
  | writes owner record =>
    apply forall_mem_snoc sensible.writing
    cases record with
    | some r => exact .stores owner r
    | none => exact .erases owner
  | writer i x l =>
    simp only [after, moved]
    split
    · next r next asks =>
      intro p here
      rcases List.mem_or_eq_of_mem_set here with old | rfl
      · exact sensible.writing p old
      · exact (sensible.writing _ (List.mem_of_getElem? asks)).answered _
    · exact sensible.writing
  | pass i x l =>
    simp only [after, moved]
    split <;> exact sensible.writing
  | begins k => exact sensible.writing
  | drops i => exact sensible.writing
  | call c => exact sensible.writing
  | outside r => exact sensible.writing
  | time clock => exact sensible.writing

theorem Sensible.reading_after (sensible : Sensible d t) (m : Move) :
    ∀ p ∈ (t.after d m).passes, ∃ k, Stage d k p := by
  have set {i : Nat} {p : Pass Action} (stage : ∃ k, Stage d k p) :
      ∀ q ∈ t.passes.set i p, ∃ k, Stage d k q := by
    intro q here
    rcases List.mem_or_eq_of_mem_set here with before | rfl
    · exact sensible.reading q before
    · exact stage
  cases m with
  | begins k => exact forall_mem_snoc sensible.reading ⟨k, .starts⟩
  | pass i x l =>
    simp only [after, moved]
    split
    · next r next asks =>
      obtain ⟨k, stage⟩ := sensible.reading _ (List.mem_of_getElem? asks)
      exact set ⟨k, stage.answered x l⟩
    · exact sensible.reading
  | drops i => exact set ⟨default, .failed _⟩
  | writer i x l =>
    simp only [after, moved]
    split <;> exact sensible.reading
  | writes owner record => exact sensible.reading
  | call c => exact sensible.reading
  | outside r => exact sensible.reading
  | time clock => exact sensible.reading

theorem Sensible.after (sensible : Sensible d t) (minds : m.minds = true) :
    Sensible d (t.after d m) :=
  ⟨sensible.sound_after m, sensible.writing_after m, sensible.reading_after m,
    opened_after sensible.opened (calls_going minds), sensible.mindful.after _⟩

theorem Sensible.through (sensible : Sensible d t) {moves : List Move}
    (minds : ∀ m ∈ moves, m.minds = true) : Sensible d (t.through d moves) := by
  induction moves generalizing t with
  | nil => exact sensible
  | cons m moves ih =>
    exact ih (sensible.after (minds m List.mem_cons_self)) fun n here =>
      minds n (List.mem_cons_of_mem m here)

end Relay

end TokenSteward
