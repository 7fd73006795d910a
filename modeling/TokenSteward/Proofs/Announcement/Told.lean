import TokenSteward.Proofs.Announcement.Relay
import TokenSteward.Proofs.Rest.Settled

/-! # Announcements that are told

A data update is there until a pass tells the tokens' queue of the token that it names, unless it was
given the name of an earlier one that a pass has read and is yet to delete: that pass deletes the new one
in its place. Apart from that, once a writer has come to a good end, the queue was told of its token after
the record was changed, or the data update is still there, with nobody over it who would delete it
without telling.
-/

namespace TokenSteward.Relay

open TokenSteward.Cluster TokenSteward.Resource TokenSteward.Secret TokenSteward.Queue

variable {d : UpdateDesk} {t : Relay} {m : Move}

/-! ## Passes that know an earlier data update -/

/-- The key of the data update that a pass is yet to delete, and the token that it is to tell of first, if
it has not. -/
def dueAt : Pass Action → Option (Key × Option Key)
  | .ask (.updates (.delete k)) _ => some (k, none)
  | .ask (.enqueue _ token) next =>
    match next () with
    | .ask (.updates (.delete k)) _ => some (k, some token)
    | _ => none
  | _ => none

/-- A move creates no data update that a pass is yet to delete, unless that pass is to tell of the same
token first. -/
def Apart (d : UpdateDesk) (t : Relay) (m : Move) : Prop :=
  ∀ p ∈ t.passes, ∀ due ∈ dueAt p, t.cluster.updates.get? due.1 = none →
    ∀ u ∈ (t.after d m).cluster.updates.get? due.1, due.2 = some (DataUpdate.token u)

instance (d : UpdateDesk) (t : Relay) (m : Move) : Decidable (Apart d t m) :=
  inferInstanceAs (Decidable (∀ p ∈ t.passes, ∀ due ∈ dueAt p, t.cluster.updates.get? due.1 = none →
    ∀ u ∈ (t.after d m).cluster.updates.get? due.1, due.2 = some (DataUpdate.token u)))

/-- The moves of a writer create no such data update. -/
def WritesApart (d : UpdateDesk) (i : Nat) : Relay → List Move → Prop
  | _, [] => True
  | t, m :: rest => (m.writer? = some i → Apart d t m) ∧ WritesApart d i (t.after d m) rest

instance decidableWritesApart (d : UpdateDesk) (i : Nat) :
    (t : Relay) → (moves : List Move) → Decidable (WritesApart d i t moves)
  | _, [] => .isTrue trivial
  | t, m :: rest =>
    have : Decidable (WritesApart d i (t.after d m) rest) := decidableWritesApart d i _ rest
    inferInstanceAs (Decidable (_ ∧ _))

/-! ## A data update until the queue is told of it -/

/-- A data update lies at a key, and no pass over it has told the queue of another token, or is about to
delete it. -/
structure Pending (d : UpdateDesk) (t : Relay) (k : Key) (u : DataUpdate) : Prop where
  lies : t.cluster.updates.get? k = some u
  tells : ∀ p ∈ t.passes, ∀ other, p = d.telling k other → other = DataUpdate.token u
  closes : ∀ p ∈ t.passes, p ≠ UpdateDesk.closing k

/-- A new data update is pending if the passes have read no other of its name. -/
theorem Pending.of_new (apart : Apart d t m) {k : Key} {u : DataUpdate}
    (free : t.cluster.updates.get? k = none) (lies : (t.after d m).cluster.updates.get? k = some u)
    (passes : (t.after d m).passes = t.passes) : Pending d (t.after d m) k u := by
  refine ⟨lies, ?_, ?_⟩
  · rintro p here other rfl
    rw [passes] at here
    exact Option.some.inj (apart _ here (k, some other) rfl free u lies)
  · rintro p here rfl
    rw [passes] at here
    cases apart _ here (k, none) rfl free u lies

/-- A request that is asked leaves a pending data update. -/
theorem Pending.spares {k : Key} {u : DataUpdate} (pending : Pending d t k u) (sensible : Sensible d t)
    (minds : m.minds = true) {x : Chance} {r : Request} (serves : t.Serves m x r) :
    SparesUpdate k r := by
  cases serves with
  | writer asks => exact (sensible.writing _ (List.mem_of_getElem? asks)).spares k
  | pass asks =>
    have here := List.mem_of_getElem? asks
    obtain ⟨j, stage⟩ := sensible.reading _ here
    have closes := pending.closes _ here
    generalize same : Pass.ask r _ = p at stage closes
    cases stage with
    | starts =>
      rw [UpdateDesk.pass_eq] at same
      cases same
      exact ⟨by simp, by simp⟩
    | tells other =>
      cases same
      exact ⟨by simp, by simp⟩
    | closes =>
      cases same
      refine ⟨?_, by simp⟩
      rintro ⟨⟩
      exact closes rfl
    | done a => cases same
    | failed f => cases same
  | outside =>
    refine ⟨?_, ?_⟩
    · rintro rfl
      cases minds
    · rintro o rfl
      cases minds

theorem Pending.lies_after {k : Key} {u : DataUpdate} (pending : Pending d t k u)
    (sensible : Sensible d t) (minds : m.minds = true) :
    (t.after d m).cluster.updates.get? k = some u := by
  rcases t.after_cases (d := d) m with ⟨clock, same⟩ | ⟨x, r, serves, served⟩
  · rw [same]
    exact pending.lies
  · rw [served]
    exact t.cluster.update_stays pending.lies sensible.sound x (pending.spares sensible minds serves)

/-- If one pass goes on, a data update stays pending, unless that pass now tells of another token or
deletes it. -/
theorem Pending.of_set {k : Key} {u : DataUpdate} (pending : Pending d t k u) {t' : Relay}
    (lies : t'.cluster.updates.get? k = some u) {i : Nat} {p : Pass Action}
    (passes : t'.passes = t.passes.set i p)
    (tells : ∀ other, p = d.telling k other → other = DataUpdate.token u)
    (closes : p ≠ UpdateDesk.closing k) : Pending d t' k u := by
  refine ⟨lies, ?_, ?_⟩
  · intro q under
    rw [passes] at under
    rcases List.mem_or_eq_of_mem_set under with before | rfl
    · exact pending.tells q before
    · exact tells
  · intro q under
    rw [passes] at under
    rcases List.mem_or_eq_of_mem_set under with before | rfl
    · exact pending.closes q before
    · exact closes

/-- A pass that is answered leaves a pending data update, or tells the queue of its token: the copy that
it has read names the same token. -/
theorem Pending.pass {k : Key} {u : DataUpdate} (pending : Pending d t k u) (sensible : Sensible d t)
    {i : Nat} {r : Request} {next : r.Answer → Pass Action} (asks : t.passes[i]? = some (.ask r next))
    (x : Chance) (l : Loss) : Pending d (t.after d (.pass i x l)) k u ∨
      t.calls d (.pass i x l) = [.add (DataUpdate.token u)] := by
  have here := List.mem_of_getElem? asks
  obtain ⟨j, stage⟩ := sensible.reading _ here
  have passes : (t.after d (.pass i x l)).passes =
      t.passes.set i (next (l.heard r (t.cluster.answer x r).1)) := by
    simp [Relay.after, moved, asks]
  have goesOn := pending.of_set (pending.lies_after (m := .pass i x l) sensible rfl) passes
  rcases stage.next_cases (c := t.cluster) x l with (⟨a, ends⟩ | ⟨f, fails⟩) |
    ⟨v, stored, tells⟩ | ⟨other, rfl, told, closes⟩
  · rw [ends] at goesOn
    exact .inl (goesOn (fun _ same => by cases same) fun same => by cases same)
  · rw [fails] at goesOn
    exact .inl (goesOn (fun _ same => by cases same) fun same => by cases same)
  · rw [tells] at goesOn
    refine .inl (goesOn ?_ fun same => by cases same)
    intro other same
    obtain ⟨rfl, rfl⟩ := telling_injective same
    rw [Option.some.inj (stored.symm.trans pending.lies)]
  · by_cases mine : j = k
    · subst mine
      obtain rfl := pending.tells _ here other told
      exact .inr (by simp [calls, asks, callsOf])
    · rw [closes] at goesOn
      exact .inl (goesOn (fun _ same => by cases same) fun same => mine (closing_injective same))

/-- A pending data update stays so through a move, unless the queue is told of its token then. -/
theorem Pending.after {k : Key} {u : DataUpdate} (pending : Pending d t k u) (sensible : Sensible d t)
    (minds : m.minds = true) :
    Pending d (t.after d m) k u ∨ t.calls d m = [.add (DataUpdate.token u)] := by
  have lies := pending.lies_after sensible minds
  have others (same : (t.after d m).passes = t.passes) : Pending d (t.after d m) k u :=
    ⟨lies, same ▸ pending.tells, same ▸ pending.closes⟩
  cases m with
  | begins j =>
    refine .inl ⟨lies, forall_mem_snoc pending.tells ?_, forall_mem_snoc pending.closes ?_⟩
    · intro other same
      rw [UpdateDesk.pass_eq] at same
      cases same
    · intro same
      rw [UpdateDesk.pass_eq] at same
      cases same
  | pass i x l =>
    cases asks : t.passes[i]? with
    | none => exact .inl (others (by simp [Relay.after, moved, asks]))
    | some p =>
      cases p with
      | done a => exact .inl (others (by simp [Relay.after, moved, asks]))
      | fail f => exact .inl (others (by simp [Relay.after, moved, asks]))
      | ask r next => exact pending.pass sensible asks x l
  | drops i => exact .inl (pending.of_set lies rfl (fun _ same => by cases same) fun same => by cases same)
  | writer i x l =>
    refine .inl (others ?_)
    simp only [Relay.after, moved]
    split <;> rfl
  | writes owner record => exact .inl (others rfl)
  | call c => exact .inl (others rfl)
  | outside r => exact .inl (others rfl)
  | time clock => exact .inl (others rfl)

/-- A data update that is pending stays so through all moves, or the queue is told of its token. -/
theorem Pending.through {k : Key} {u : DataUpdate} (pending : Pending d t k u)
    (sensible : Sensible d t) {moves : List Move} (minds : ∀ m ∈ moves, m.minds = true) :
    Pending d (t.through d moves) k u ∨ ∃ early m late, moves = early ++ m :: late ∧
      (t.through d early).calls d m = [.add (DataUpdate.token u)] := by
  induction moves generalizing t with
  | nil => exact .inl pending
  | cons m moves ih =>
    have first := minds m List.mem_cons_self
    rcases pending.after sensible first with still | told
    · rcases ih still (sensible.after first) fun n here => minds n (List.mem_cons_of_mem m here) with
        still | ⟨early, n, late, rfl, told⟩
      · exact .inl still
      · exact .inr ⟨m :: early, n, late, rfl, told⟩
    · exact .inr ⟨[], m, moves, rfl, told⟩

/-- The queue is told of a token by one of some moves, and the token is handed out since, or still
due. -/
def Told (d : UpdateDesk) (t : Relay) (moves : List Move) (token : Key) : Prop :=
  ∃ early m late, moves = early ++ m :: late ∧ (t.through d early).calls d m = [.add token] ∧
    ((t.through d (early ++ [m])).queue.HandsOut ((t.through d (early ++ [m])).callsAlong d late) token ∨
      (t.through d moves).queue.Due token)

theorem callsAlong_going {moves : List Move} (minds : ∀ m ∈ moves, m.minds = true) :
    .close ∉ t.callsAlong d moves := by
  induction moves generalizing t with
  | nil => exact List.not_mem_nil
  | cons m moves ih =>
    rw [callsAlong, List.mem_append, not_or]
    exact ⟨calls_going (minds m List.mem_cons_self), ih fun n here =>
      minds n (List.mem_cons_of_mem m here)⟩

/-- A token that the queue is told of is handed out later, or still due. -/
theorem told_of_calls {token : Key} (sensible : Sensible d t) {early late : List Move}
    (minds : ∀ n ∈ early ++ m :: late, n.minds = true)
    (told : (t.through d early).calls d m = [.add token]) : Told d t (early ++ m :: late) token := by
  refine ⟨early, m, late, rfl, told, ?_⟩
  have before : Sensible d (t.through d early) := sensible.through fun n here =>
    minds n (List.mem_append_left _ here)
  have now : Sensible d ((t.through d early).after d m) := before.after (minds m (by simp))
  have due : ((t.through d early).after d m).queue.Due token := by
    simp only [Relay.after, told]
    exact before.mindful.due_add before.opened
  have going : .close ∉ ((t.through d early).after d m).callsAlong d late :=
    callsAlong_going fun n here => minds n (by simp [here])
  rw [through_snoc, through_append, through_cons, queue_through]
  rcases due.after now.opened (((t.through d early).after d m).callsAlong d late) with
    handed | due | ⟨mid, rest, closed, -⟩
  · exact .inl handed
  · exact .inr due
  · exact absurd (by simp [closed]) going

/-! ## The course of a writer -/

variable {i : Nat}

/-- A writer is where it was after a move, unless it asks for something and goes on. -/
theorem writer_stays {p : Pass Unit} (here : t.writers[i]? = some p) (m : Move) :
    (t.after d m).writers[i]? = some p ∨
      (∃ x l, m = .writer i x l) ∧ ∃ r next, p = .ask r next := by
  cases m with
  | writes owner record =>
    left
    have inside := (List.getElem?_eq_some_iff.mp here).choose
    simpa [Relay.after, moved, List.getElem?_append_left inside] using here
  | writer j x l =>
    by_cases mine : j = i
    · subst mine
      rcases p with u | f | ⟨r, next⟩
      · exact .inl (by simp [Relay.after, moved, here])
      · exact .inl (by simp [Relay.after, moved, here])
      · exact .inr ⟨⟨x, l, rfl⟩, r, next, rfl⟩
    · left
      simp only [Relay.after, moved]
      split
      · exact (List.getElem?_set_ne mine).trans here
      · exact here
  | pass j x l =>
    left
    simp only [Relay.after, moved]
    split <;> exact here
  | begins k => exact .inl here
  | drops j => exact .inl here
  | call c => exact .inl here
  | outside r => exact .inl here
  | time clock => exact .inl here

/-- A writer that has moved on was answered first where it was. -/
theorem writer_answered {p q : Pass Unit} (here : t.writers[i]? = some p) {moves : List Move}
    (later : (t.through d moves).writers[i]? = some q) (other : q ≠ p) :
    (∃ r next, p = .ask r next) ∧ ∃ early x l late, moves = early ++ .writer i x l :: late ∧
      (t.through d early).writers[i]? = some p := by
  induction moves generalizing t with
  | nil => exact absurd (Option.some.inj (later.symm.trans here)) other
  | cons m moves ih =>
    rcases writer_stays (d := d) here m with still | ⟨⟨x, l, rfl⟩, asks⟩
    · obtain ⟨asks, early, x, l, late, rfl, there⟩ := ih still later
      exact ⟨asks, m :: early, x, l, late, rfl, there⟩
    · exact ⟨asks, [], x, l, moves, rfl, here⟩

/-- A writer goes on with what it hears. -/
theorem writer_goesOn {r : Request} {next : r.Answer → Pass Unit}
    (here : t.writers[i]? = some (.ask r next)) (x : Chance) (l : Loss) :
    (t.after d (.writer i x l)).writers[i]? =
        some (next (l.heard r (t.cluster.answer x r).1)) ∧
      (t.after d (.writer i x l)).cluster = (t.cluster.answer x r).2 ∧
      (t.after d (.writer i x l)).passes = t.passes := by
  have inside := (List.getElem?_eq_some_iff.mp here).choose
  simp only [Relay.after, moved, here]
  exact ⟨List.getElem?_set_self inside, trivial, trivial⟩

/-- Once the record is written or removed, the writer has still to announce this, or fails. -/
theorem writer_wrote {owner : AccessToken} {record : Option Record}
    (here : t.writers[i]? = some (begun owner record)) (x : Chance) (l : Loss) :
    ((t.after d (.writer i x l)).writers[i]? = some (Announced.announce owner) ∧
        (t.after d (.writer i x l)).cluster.vault.get? (VaultKey.ofOwner owner) = record) ∨
      ∃ f, (t.after d (.writer i x l)).writers[i]? = some (.fail f) := by
  cases record with
  | some r =>
    rw [begun, Announced.store_eq] at here
    obtain ⟨heard, cluster, -⟩ := writer_goesOn (d := d) here x l
    rw [heard, cluster]
    simp only [Loss.heard, Cluster.answer]
    cases lost : l.vault with
    | some f => exact .inr ⟨_, rfl⟩
    | none =>
      cases failed : x.outage with
      | some f => exact .inr ⟨_, rfl⟩
      | none => exact .inl ⟨rfl, Table.get?_insert_self _ _ _⟩
  | none =>
    rw [begun, Announced.delete_eq] at here
    obtain ⟨heard, cluster, -⟩ := writer_goesOn (d := d) here x l
    rw [heard, cluster]
    simp only [Loss.heard, Cluster.answer]
    cases lost : l.vault with
    | some f => exact .inr ⟨_, rfl⟩
    | none =>
      cases failed : x.outage with
      | some f => exact .inr ⟨_, rfl⟩
      | none => exact .inl ⟨rfl, Table.get?_erase_self _ _⟩

/-- Once the record is announced, a data update that was not there tells of it, or the writer fails. -/
theorem writer_announced {owner : AccessToken}
    (here : t.writers[i]? = some (Announced.announce owner)) (x : Chance) (l : Loss)
    (apart : Apart d t (.writer i x l)) :
    (∃ k u, t.cluster.updates.get? k = none ∧ DataUpdate.token u = owner.key ∧
        Pending d (t.after d (.writer i x l)) k u) ∨
      ∃ f, (t.after d (.writer i x l)).writers[i]? = some (.fail f) := by
  rw [Announced.announce_eq] at here
  obtain ⟨goesOn, cluster, passes⟩ := writer_goesOn (d := d) here x l
  rw [goesOn]
  rcases heard_updates_cases l t.cluster x (.create (DataUpdate.forToken owner.key)) with
    ⟨f, failed⟩ | ⟨answered, served⟩
  · rw [failed]
    exact .inr ⟨_, rfl⟩
  · rcases t.cluster.updates.create_cases t.cluster.now (DataUpdate.forToken owner.key) with
      ⟨f, failed⟩ | ⟨name, s', made, free, wrote⟩
    · rw [answered, Store.perform, failed]
      exact .inr ⟨_, rfl⟩
    · let u := t.cluster.updates.born t.cluster.now (DataUpdate.forToken owner.key) name
      have about : DataUpdate.token u = owner.key := rfl
      refine .inl ⟨_, u, free, about, .of_new apart free ?_ passes⟩
      rw [cluster, served, Store.perform, made]
      exact wrote.get?_self

/-! ## Writers that are noticed -/

/-- What a writer that was successful has left: a data update that was created, names the token and still
lies there, or the queue has been told of the token. -/
def Announces (d : UpdateDesk) (t : Relay) (moves : List Move) (token : Key) : Prop :=
  (∃ k u early m late, moves = early ++ m :: late ∧ (t.through d early).cluster.updates.get? k = none ∧
      (t.through d (early ++ [m])).cluster.updates.get? k = some u ∧
      (t.through d moves).cluster.updates.get? k = some u ∧ DataUpdate.token u = token) ∨
    Told d t moves token

/-- The writer that begins in a run is noticed, or will be: since the moment at which its record was
written or removed, a data update was created that names the token and still lies there, or the queue was
told of the token, which was handed out since or is still due. -/
def Noticed (d : UpdateDesk) (outset : Cluster.Outset) (early : List Move) (owner : AccessToken)
    (record : Option Record) (late : List Move) : Prop :=
  ∃ before i x l rest, late = before ++ .writer i x l :: rest ∧ i = (run d outset early).nextWriter ∧
    (run d outset (early ++ .writes owner record :: before)).writers[i]? = some (begun owner record) ∧
    (run d outset (early ++ .writes owner record :: (before ++ [.writer i x l]))).cluster.vault.get?
      (VaultKey.ofOwner owner) = record ∧
    Announces d (run d outset (early ++ .writes owner record :: (before ++ [.writer i x l]))) rest
      owner.key

theorem writesApart_split {early late : List Move} (apart : WritesApart d i t (early ++ m :: late)) :
    (m.writer? = some i → Apart d (t.through d early) m) ∧
      WritesApart d i ((t.through d early).after d m) late := by
  induction early generalizing t with
  | nil => exact apart
  | cons n early ih => exact ih apart.2

/-- A writer that has still to announce its record and is successful has announced it. -/
theorem announces_of_done (sensible : Sensible d t) {owner : AccessToken}
    (here : t.writers[i]? = some (Announced.announce owner)) {moves : List Move}
    (minds : ∀ m ∈ moves, m.minds = true) (apart : WritesApart d i t moves)
    (done : (t.through d moves).writers[i]? = some (.done ())) : Announces d t moves owner.key := by
  obtain ⟨-, early, x, l, late, rfl, there⟩ := writer_answered here done (by
    rw [Announced.announce_eq]
    exact fun same => by cases same)
  have first : ∀ m ∈ early, m.minds = true := fun m here => minds m (List.mem_append_left _ here)
  have rest : ∀ m ∈ late, m.minds = true := fun m here => minds m (by simp [here])
  have before := sensible.through first
  rw [through_append, through_cons] at done
  rcases writer_announced there x l ((writesApart_split apart).1 rfl) with
    ⟨k, u, free, about, pending⟩ | ⟨f, failed⟩
  · rcases pending.through (before.after rfl) rest with still | ⟨mid, m, last, rfl, told⟩
    · refine .inl ⟨k, u, early, _, late, rfl, free, ?_, ?_, about⟩
      · rw [through_snoc]
        exact pending.lies
      · rw [through_append, through_cons]
        exact still.lies
    · have split : early ++ Move.writer i x l :: (mid ++ m :: last) =
          (early ++ .writer i x l :: mid) ++ m :: last := by
        rw [List.append_assoc, List.cons_append]
      rw [split] at minds ⊢
      refine .inr (told_of_calls sensible minds ?_)
      rw [through_append, through_cons, ← about]
      exact told
  · obtain ⟨⟨r, next, asks⟩, -⟩ := writer_answered failed done fun same => by cases same
    cases asks

/-- Whatever happens, if the tokens' queue stays open and nobody but the passes deletes data updates and
nobody rewrites them, a writer that is successful is noticed or will be, unless its data update was given
the name of one that a pass has read and is yet to delete. -/
theorem noticed_of_success (d : UpdateDesk) (outset : Cluster.Outset) {early late : List Move}
    {owner : AccessToken} {record : Option Record}
    (minds : ∀ m ∈ early ++ .writes owner record :: late, m.minds = true)
    (apart : WritesApart d (run d outset early).nextWriter (start outset)
      (early ++ .writes owner record :: late))
    (success : (run d outset (early ++ .writes owner record :: late)).writers[
      (run d outset early).nextWriter]? = some (.done ())) :
    Noticed d outset early owner record late := by
  have sensible : Sensible d (run d outset early) := (sensible_start d outset).through fun m here =>
    minds m (List.mem_append_left _ here)
  have apart := (writesApart_split apart).2
  simp only [Noticed, run, through_append, through_cons, through_nil] at sensible apart success ⊢
  generalize (start outset).through d early = t at sensible apart success ⊢
  have began : (t.after d (.writes owner record)).writers[t.nextWriter]? = some (begun owner record) := by
    simp [Relay.after, moved, nextWriter]
  obtain ⟨-, before, x, l, rest, rfl, there⟩ := writer_answered began success (by
    cases record with
    | some r =>
      rw [begun, Announced.store_eq]
      exact fun same => by cases same
    | none =>
      rw [begun, Announced.delete_eq]
      exact fun same => by cases same)
  refine ⟨before, _, x, l, rest, rfl, rfl, there, ?_⟩
  have now : Sensible d (((t.after d (.writes owner record)).through d before).after d
      (.writer t.nextWriter x l)) := by
    refine ((sensible.after rfl).through fun m here => minds m ?_).after rfl
    simp [here]
  rw [through_append, through_cons] at success
  rcases writer_wrote (d := d) there x l with ⟨announces, written⟩ | ⟨f, failed⟩
  · exact ⟨written, announces_of_done now announces (fun m here => minds m (by simp [here]))
      (writesApart_split apart).2 success⟩
  · obtain ⟨⟨r, next, asks⟩, -⟩ := writer_answered failed success fun same => by cases same
    cases asks

/-- What a relay leaves of a noticed writer: a data update that names its token, or a call that tells the
queue of it. -/
theorem Noticed.left {outset : Cluster.Outset} {early late : List Move} {owner : AccessToken}
    {record : Option Record} (noticed : Noticed d outset early owner record late) :
    (∃ k u, (run d outset (early ++ .writes owner record :: late)).cluster.updates.get? k = some u) ∨
      .add owner.key ∈ (start outset).callsAlong d (early ++ .writes owner record :: late) := by
  obtain ⟨before, i, x, l, rest, rfl, -, -, -, announces⟩ := noticed
  have split : early ++ .writes owner record :: (before ++ Move.writer i x l :: rest) =
      (early ++ .writes owner record :: (before ++ [.writer i x l])) ++ rest := by simp
  rw [split, callsAlong_append, run, through_append]
  rcases announces with ⟨k, u, -, -, -, -, -, -, lies, -⟩ | ⟨mid, m, last, rfl, told, -⟩
  · exact .inl ⟨k, u, lies⟩
  · refine .inr (List.mem_append_right _ ?_)
    rw [callsAlong_append, callsAlong]
    exact List.mem_append_right _ (List.mem_append_left _ (told ▸ List.mem_singleton_self _))

/-! ## Runs -/

/-- A token of a namespace. -/
def relayToken (name : String) : AccessToken :=
  .fresh (Metadata.named "dev" name) "https://git.example" Permissions.none

/-- The key of the data update that is created first. -/
def firstUpdate : Key := ⟨"dev", "token-data-update-<u1>"⟩

/-- An outset at which the names of data updates come again as soon as they are free. -/
def namesAgain : Cluster.Outset := ⟨0, .serial "t", .serial "b", .recurring "u"⟩

/-- A record is announced, and three passes read the announcement. One of them is given up, and one tells
of it and deletes it. -/
def firstNotice : List Move :=
  [.writes (relayToken "git") (some .blank), .writer 0 .quiet .none, .writer 0 .quiet .none,
    .begins firstUpdate, .begins firstUpdate, .begins firstUpdate, .pass 0 .quiet .none,
    .pass 1 .quiet .none, .pass 2 .quiet .none, .drops 2, .pass 0 .quiet .none, .pass 0 .quiet .none]

/-- Another announcement is given the same name, and the third pass tells of what it has read and deletes
what is there. -/
def sameName : List Move :=
  [.writer 1 .quiet .none, .writer 1 .quiet .none, .pass 1 .quiet .none, .pass 1 .quiet .none]

/-- A pass that is done has come to a good end. -/
theorem done_of_isDone {p : Option (Pass Unit)} (done : p.map Pass.isDone = some true) :
    p = some (.done ()) := by
  obtain ⟨p, rfl, done⟩ := Option.map_eq_some_iff.mp done
  cases p with
  | done a => rfl
  | fail f => cases done
  | ask r next => cases done

/-- If both announcements are of one token, that pass tells of both. -/
theorem noticed_of_success_sameName :
    WritesApart ⟨1⟩ (run ⟨1⟩ namesAgain firstNotice).nextWriter (start namesAgain)
        (firstNotice ++ .writes (relayToken "git") (some .blank) :: sameName) ∧
      Noticed ⟨1⟩ namesAgain firstNotice (relayToken "git") (some .blank) sameName := by
  have minds : ∀ m ∈ firstNotice ++ .writes (relayToken "git") (some .blank) :: sameName,
      m.minds = true := by decide +kernel
  have apart : WritesApart ⟨1⟩ (run ⟨1⟩ namesAgain firstNotice).nextWriter (start namesAgain)
      (firstNotice ++ .writes (relayToken "git") (some .blank) :: sameName) := by decide +kernel
  have ended : (run ⟨1⟩ namesAgain (firstNotice ++ .writes (relayToken "git") (some .blank) ::
      sameName)).writers[(run ⟨1⟩ namesAgain firstNotice).nextWriter]?.map Pass.isDone = some true := by
    decide +kernel
  exact ⟨apart, noticed_of_success ⟨1⟩ namesAgain minds apart (done_of_isDone ended)⟩

/-- An announcement is rewritten before a pass has read it. -/
def rewritten : List Move :=
  [.writer 0 .quiet .none, .writer 0 .quiet .none,
    .outside (.updates (.update ⟨.named "dev" firstUpdate.name, ⟨"hub"⟩, ()⟩)), .begins firstUpdate,
    .pass 0 .quiet .none, .pass 0 .quiet .none, .pass 0 .quiet .none]

/-- If a name comes again, a writer that is successful can go unnoticed, even if nobody else takes part:
here the two announcements are of different tokens. If someone else rewrites data updates, it can go
unnoticed even if no name comes again. -/
theorem exists_unnoticed :
    (¬ ∀ (d : UpdateDesk) (outset : Cluster.Outset) (early late : List Move) (owner : AccessToken)
        (record : Option Record),
      (∀ m ∈ early ++ .writes owner record :: late, m.isOwn = true) →
      (run d outset (early ++ .writes owner record :: late)).writers[
        (run d outset early).nextWriter]? = some (.done ()) →
      Noticed d outset early owner record late) ∧
    ¬ ∀ (d : UpdateDesk) (clock : Int64) (early late : List Move) (owner : AccessToken)
        (record : Option Record),
      (∀ m ∈ early ++ .writes owner record :: late, m.deletesNone = true) →
      (run d (.serial clock) (early ++ .writes owner record :: late)).writers[
        (run d (.serial clock) early).nextWriter]? = some (.done ()) →
      Noticed d (.serial clock) early owner record late := by
  have unnoticed {d : UpdateDesk} {outset : Cluster.Outset} {early late : List Move} {owner : AccessToken}
      {record : Option Record}
      (empty : (run d outset (early ++ .writes owner record :: late)).cluster.updates.objects.entries.length = 0)
      (untold : .add owner.key ∉
        (start outset).callsAlong d (early ++ .writes owner record :: late)) :
      ¬ Noticed d outset early owner record late := by
    intro noticed
    rcases noticed.left with ⟨k, u, lies⟩ | told
    · have member := Table.mem_of_lookup lies
      rw [List.eq_nil_of_length_eq_zero empty] at member
      cases member
    · exact untold told
  constructor
  · intro always
    refine unnoticed (d := ⟨1⟩) ?_ ?_ (always ⟨1⟩ namesAgain firstNotice sameName (relayToken "hub")
      (some .blank) ?_ (done_of_isDone ?_)) <;> decide +kernel
  · intro always
    refine unnoticed (d := ⟨1⟩) ?_ ?_ (always ⟨1⟩ 0 [] rewritten (relayToken "git") (some .blank) ?_
      (done_of_isDone ?_)) <;> decide +kernel

end TokenSteward.Relay
