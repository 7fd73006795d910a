import TokenSteward.Proofs.Cluster.Calls
import TokenSteward.Proofs.Cluster.Listing

/-! # Copies that clients hold

A client gets hold of an object by an answer or from a change that is told. Until it writes with the
version of its copy, others may call the store as they like, also remove the object and create
another one of its name. A write with that version succeeds only if nothing at all was written under
the key since the client got its copy.
-/

namespace TokenSteward.Cluster

open TokenSteward.Resource

variable {σ τ : Type}

/-- The objects in the answer to a request. -/
def StoreRequest.shown : (r : StoreRequest σ τ) → Except StoreFailure r.Result → List (Object σ τ)
  | .get _, .ok found => found.toList
  | .list _ _, .ok listed => listed
  | .create _, .ok made => [made]
  | .update _, .ok written => [written]
  | .updateStatus _, .ok written => [written]
  | .delete _, .ok () => []
  | _, .error _ => []

namespace Store

variable [DecidableEq τ] {s : Store σ τ}

/-- The objects that a call shows to its client. -/
def shown (s : Store σ τ) (c : Call σ τ) : List (Object σ τ) :=
  c.request.shown (s.perform c.now c.request).1

/-- What a call does, and what it shows: it leaves the store and shows objects of it, writes one
object and shows that, or removes one and shows it with a version that was stored or with none. -/
inductive Outcome (s : Store σ τ) : Store σ τ → List (Object σ τ) → Prop where
  | kept {shown : List (Object σ τ)} (stored : ∀ o ∈ shown, ∃ k, s.get? k = some o) : Outcome s s shown
  | wrote {s' : Store σ τ} {shown : List (Object σ τ)} (o : Object σ τ) (wrote : Wrote s o s')
      (alone : ∀ p ∈ shown, p = o) : Outcome s s' shown
  | removed {shown : List (Object σ τ)} (o stored : Object σ τ) (found : s.get? o.key = some stored)
      (standing : StandsOn o stored) (alone : ∀ p ∈ shown, p = o) :
      Outcome s (s.remove o.key o) shown

/-- Every call of a sound store has one of these outcomes. -/
theorem Sound.outcome (sound : s.Sound) (c : Call σ τ) : Outcome s (s.next c) (s.shown c) := by
  obtain ⟨now, r⟩ := c
  cases r with
  | get k => exact .kept fun o among => ⟨k, Option.mem_toList.mp among⟩
  | list space wanted => exact .kept fun o among => (mem_list.mp among).1
  | create made =>
    change Outcome s (s.create now made).2 ((StoreRequest.create made).shown (s.create now made).1)
    rcases create_cases s now made with ⟨f, failed⟩ | ⟨name, s', done, -, wrote⟩
    · rw [failed]
      exact .kept fun _ among => absurd among List.not_mem_nil
    · rw [done]
      exact .wrote _ wrote fun _ among => List.mem_singleton.mp among
  | update incoming =>
    change Outcome s (s.update incoming).2 ((StoreRequest.update incoming).shown (s.update incoming).1)
    rcases Store.update_cases s incoming with
      ⟨f, failed⟩ | ⟨stored, found, standing, ⟨-, -, gone⟩ | ⟨-, written⟩⟩
    · rw [failed]
      exact .kept fun _ among => absurd among List.not_mem_nil
    · rw [gone]
      exact .removed (blended stored incoming) stored found standing fun _ among =>
        List.mem_singleton.mp among
    · rw [written]
      exact .wrote _ (wrote_write _ _ rfl) fun _ among => List.mem_singleton.mp among
  | updateStatus incoming =>
    change Outcome s (s.updateStatus incoming).2
      ((StoreRequest.updateStatus incoming).shown (s.updateStatus incoming).1)
    rcases Store.updateStatus_cases s incoming with
      ⟨f, failed⟩ | ⟨stored, found, -, ⟨-, same⟩ | ⟨-, written⟩⟩
    · rw [failed]
      exact .kept fun _ among => absurd among List.not_mem_nil
    · rw [same]
      refine .kept fun o among => ⟨incoming.key, ?_⟩
      obtain rfl := List.mem_singleton.mp among
      exact found
    · rw [written]
      exact .wrote _ (wrote_write _ _ rfl) fun _ among => List.mem_singleton.mp among
  | delete k =>
    change Outcome s (s.delete now k).2 ((StoreRequest.delete k).shown (s.delete now k).1)
    rcases delete_cases s now k with ⟨f, failed⟩ | ⟨stored, found, ⟨-, gone⟩ | ⟨-, rest⟩⟩
    · rw [failed]
      exact .kept fun _ among => absurd among List.not_mem_nil
    · rw [gone]
      obtain rfl := sound.filed found
      exact .removed stored stored found (.inr rfl) fun _ among => absurd among List.not_mem_nil
    · rcases rest with ⟨-, same⟩ | ⟨-, written⟩
      · rw [same]
        exact .kept fun _ among => absurd among List.not_mem_nil
      · rw [written]
        exact .wrote _ (wrote_write _ _ rfl) fun _ among => absurd among List.not_mem_nil

/-! ## Copies -/

omit [DecidableEq τ] in
/-- The last word on a removed object is a copy, if it has a version. -/
theorem Sound.snapshot_removed (sound : s.Sound) {o stored : Object σ τ}
    (found : s.get? o.key = some stored) (standing : StandsOn o stored)
    (numbered : o.metadata.version ≠ 0) : (s.remove o.key o).Snapshot o := by
  have version : o.metadata.version = stored.metadata.version := standing.resolve_left numbered
  refine ⟨version ▸ sound.given found, fun present _ => ?_⟩
  rw [get?_remove_self] at present
  contradiction

/-- What is shown to a client with a version is a copy. -/
theorem Sound.snapshot_shown (sound : s.Sound) {c : Call σ τ} {o : Object σ τ}
    (among : o ∈ s.shown c) (numbered : o.metadata.version ≠ 0) : (s.next c).Snapshot o := by
  have later := sound.next c
  have outcome := sound.outcome c
  generalize s.next c = s', s.shown c = shown at later outcome among
  cases outcome with
  | kept stored =>
    obtain ⟨k, found⟩ := stored o among
    exact sound.snapshot found
  | wrote w wrote alone =>
    obtain rfl := alone o among
    exact later.snapshot wrote.get?_self
  | removed w stored found standing alone =>
    obtain rfl := alone o among
    exact sound.snapshot_removed found standing numbered

/-- The objects of all that was told are copies, if they have a version. -/
def Witnessed (s : Store σ τ) : Prop :=
  ∀ e ∈ s.history, e.object.metadata.version ≠ 0 → s.Snapshot e.object

theorem Witnessed.next (witnessed : s.Witnessed) (sound : s.Sound) (c : Call σ τ) :
    (s.next c).Witnessed := by
  have later := sound.next c
  have old : ∀ e ∈ s.history, e.object.metadata.version ≠ 0 → (s.next c).Snapshot e.object :=
    fun e among numbered => (witnessed e among numbered).change (sound.change_next c)
  have outcome := sound.outcome c
  generalize s.next c = s' at later old outcome
  cases outcome with
  | kept _ => exact old
  | wrote o wrote _ =>
    intro e among numbered
    rw [wrote.history] at among
    rcases List.mem_cons.mp among with rfl | before
    · exact later.snapshot wrote.get?_self
    · exact old e before numbered
  | removed o stored found standing _ =>
    intro e among numbered
    rcases List.mem_cons.mp among with rfl | before
    · exact sound.snapshot_removed found standing numbered
    · exact old e before numbered

theorem witnessed_ofCalls (kind : String) (draws : Draws) (calls : List (Call σ τ)) :
    (ofCalls kind draws calls).Witnessed :=
  (sound_empty kind draws).kept (fun sound holds c => Witnessed.next holds sound c)
    (fun _ among => absurd among List.not_mem_nil) calls

/-- A client gets hold of an object of a store: a call of its own shows it and leaves another store,
or the store has told a change of it. -/
inductive Obtains (s : Store σ τ) (o : Object σ τ) : Store σ τ → Prop where
  | shown (c : Call σ τ) (among : o ∈ s.shown c) : Obtains s o (s.next c)
  | told {e : Event σ τ} (among : e ∈ s.history) (about : e.object = o) : Obtains s o s

theorem Snapshot.after {o : Object σ τ} (copy : s.Snapshot o) (sound : s.Sound)
    (calls : List (Call σ τ)) : (s.after calls).Snapshot o :=
  sound.kept (P := fun t => t.Snapshot o) (fun sound holds c => holds.change (sound.change_next c))
    copy calls

/-- What lies at a key after some calls and was given out before, lay there before them. -/
theorem Snapshot.stored_early {o : Object σ τ} (copy : s.Snapshot o) (sound : s.Sound)
    {calls : List (Call σ τ)} {k : Key} (here : (s.after calls).get? k = some o) :
    s.get? k = some o := by
  induction calls generalizing s with
  | nil => exact here
  | cons c calls ih =>
    have change := sound.change_next c
    exact copy.stored_before change (ih (copy.change change) (sound.next c) here)

/-- Nothing is written under the key of an object during some calls: it lies there all along, and no
change under the key is told. -/
structure Untouched (s : Store σ τ) (o : Object σ τ) (calls : List (Call σ τ)) : Prop where
  lies : ∀ early late, calls = early ++ late → (s.after early).get? o.key = some o
  silent : ∃ told, (s.after calls).history = told ++ s.history ∧ ∀ e ∈ told, e.object.key ≠ o.key

/-- A call that leaves the object at a key tells nothing of the key. -/
theorem Sound.silent_next (sound : s.Sound) (c : Call σ τ) {k : Key} {o : Object σ τ}
    (before : s.get? k = some o) (here : (s.next c).get? k = some o) :
    (s.next c).history = s.history ∨
      ∃ e, (s.next c).history = e :: s.history ∧ e.object.key ≠ k := by
  have outcome := sound.outcome c
  generalize s.next c = s' at outcome here
  cases outcome with
  | kept _ => exact .inl rfl
  | wrote w wrote _ =>
    refine .inr ⟨_, wrote.history, ?_⟩
    rintro rfl
    obtain rfl := Option.some.inj (wrote.get?_self.symm.trans here)
    have given := sound.given before
    rw [wrote.numbered] at given
    omega
  | removed w stored _ _ _ =>
    refine .inr ⟨_, rfl, fun same => ?_⟩
    rw [← same] at here
    exact absurd (here.symm.trans (get?_remove_self s w.key w)) (by simp)

/-- What was given out and lies at its key after some calls was not touched by them. -/
theorem Snapshot.untouched {o : Object σ τ} (copy : s.Snapshot o) (sound : s.Sound)
    {calls : List (Call σ τ)} (here : (s.after calls).get? o.key = some o) : s.Untouched o calls := by
  induction calls generalizing s with
  | nil =>
    refine ⟨fun early late split => ?_, [], rfl, fun _ among => nomatch among⟩
    obtain ⟨rfl, rfl⟩ := List.append_eq_nil_iff.mp split.symm
    exact here
  | cons c calls ih =>
    have change := sound.change_next c
    have first : s.get? o.key = some o := copy.stored_early sound here
    have rest := ih (copy.change change) (sound.next c) here
    refine ⟨fun early late split => ?_, ?_⟩
    · cases early with
      | nil => exact first
      | cons d early =>
        obtain ⟨rfl, later⟩ := List.cons.inj split
        exact rest.lies early late later
    · obtain ⟨told, history, others⟩ := rest.silent
      rcases sound.silent_next c first (rest.lies [] calls rfl) with same | ⟨e, tells, other⟩
      · exact ⟨told, by rw [after_cons, history, same], others⟩
      · refine ⟨told ++ [e], by simp [history, tells], ?_⟩
        intro e' among
        rcases List.mem_append.mp among with later | now
        · exact others e' later
        · exact List.mem_singleton.mp now ▸ other

/-- A write with the version of a copy succeeds only on top of that copy. -/
theorem Snapshot.stored_of_write {o incoming a : Object σ τ} (copy : s.Snapshot o)
    (key : incoming.key = o.key) (version : incoming.metadata.version = o.metadata.version)
    (success : (s.update incoming).1 = .ok a ∨ (s.updateStatus incoming).1 = .ok a) :
    s.get? o.key = some o := by
  have on {stored : Object σ τ} (found : s.get? incoming.key = some stored)
      (standing : StandsOn incoming stored) : s.get? o.key = some o := by
    rw [← key, found, copy.eq_of_standsOn key version found standing]
  rcases success with updated | restated
  · rcases Store.update_cases s incoming with ⟨f, failed⟩ | ⟨stored, found, standing, -⟩
    · rw [failed] at updated
      contradiction
    · exact on found standing
  · rcases Store.updateStatus_cases s incoming with ⟨f, failed⟩ | ⟨stored, found, standing, -⟩
    · rw [failed] at restated
      contradiction
    · exact on found standing

/-- In every store that has come about by calls, all objects have a version, and a call that fails has
no effect. Who gets hold of an object and later writes with its version succeeds only if nothing was
written under the key since. A version of zero stands for none; it is seen only in the last word on an
object that was removed by a write without a version. -/
theorem untouched_until_write (kind : String) (draws : Draws) (early : List (Call σ τ)) :
    (∀ {k : Key} {o : Object σ τ}, (ofCalls kind draws early).get? k = some o →
        o.metadata.version ≠ 0) ∧
      (∀ {c : Call σ τ} {f : StoreFailure},
        ((ofCalls kind draws early).perform c.now c.request).1 = .error f →
        (ofCalls kind draws early).next c = ofCalls kind draws early) ∧
      ∀ {o incoming a : Object σ τ} {s : Store σ τ} {calls : List (Call σ τ)},
        (ofCalls kind draws early).Obtains o s → o.metadata.version ≠ 0 → incoming.key = o.key →
        incoming.metadata.version = o.metadata.version →
        ((s.after calls).update incoming).1 = .ok a ∨
          ((s.after calls).updateStatus incoming).1 = .ok a →
        s.Untouched o calls := by
  have sound := sound_ofCalls kind draws early
  refine ⟨fun found => ?_, fun failed => perform_of_error failed, ?_⟩
  · have := sound.given found
    omega
  · intro o incoming a s calls obtained numbered key version success
    have held : s.Sound ∧ s.Snapshot o := by
      cases obtained with
      | shown c among => exact ⟨sound.next c, sound.snapshot_shown among numbered⟩
      | told among about =>
        subst about
        exact ⟨sound, witnessed_ofCalls kind draws early _ among numbered⟩
    obtain ⟨sound, copy⟩ := held
    have here := (copy.after sound calls).stored_of_write key version success
    exact copy.untouched sound here

/-- A token that is created as the first one. -/
def firstToken : AccessToken := AccessToken.fresh (.named "dev" "git") "https://git.example" .none

/-- The store that it was created in. -/
def firstStore : Store TokenSpec TokenStatus :=
  ofCalls AccessToken.kind (.serial "t") [⟨.ofSeconds 0, .create firstToken⟩]

/-- The token as it is stored. -/
def firstCopy : AccessToken :=
  Store.born (empty AccessToken.kind (.serial "t")) (.ofSeconds 0) firstToken "git"

/-- That copy with a label. -/
def labelledCopy : AccessToken :=
  { firstCopy with metadata := firstCopy.metadata.setLabel "team" "x" }

/-- Calls that leave the token alone: another one is created, the status that the token has anyway is
written, all are listed, and the other one is deleted. -/
def callsElsewhere : List (Call TokenSpec TokenStatus) :=
  [⟨.ofSeconds 1, .create (AccessToken.fresh (.named "dev" "hub") "https://hub.example" .none)⟩,
    ⟨.ofSeconds 2, .updateStatus firstToken⟩, ⟨.ofSeconds 3, .list none .everything⟩,
    ⟨.ofSeconds 4, .delete ⟨"dev", "hub"⟩⟩]

/-- Who has read the token before those calls may label it after them. -/
theorem untouched_until_write_elsewhere : ∃ a : AccessToken,
    firstStore.Obtains firstCopy firstStore ∧ firstCopy.metadata.version ≠ 0 ∧
      labelledCopy.key = firstCopy.key ∧
      labelledCopy.metadata.version = firstCopy.metadata.version ∧
      ((firstStore.after callsElsewhere).update labelledCopy).1 = .ok a ∧
      firstStore.Untouched firstCopy callsElsewhere := by
  have found : firstStore.get? firstToken.key = some firstCopy := by decide +kernel
  have obtained : firstStore.Obtains firstCopy firstStore :=
    .shown ⟨.ofSeconds 1, .get firstToken.key⟩ (Option.mem_toList.mpr found)
  have numbered : firstCopy.metadata.version ≠ 0 := by decide
  have succeeds : ((firstStore.after callsElsewhere).update labelledCopy).1.isOk = true := by
    decide +kernel
  obtain ⟨a, success⟩ : ∃ a, ((firstStore.after callsElsewhere).update labelledCopy).1 = .ok a := by
    cases answer : ((firstStore.after callsElsewhere).update labelledCopy).1 with
    | ok a => exact ⟨a, rfl⟩
    | error f =>
      rw [answer] at succeeds
      contradiction
  have key : labelledCopy.key = firstCopy.key := rfl
  have version : labelledCopy.metadata.version = firstCopy.metadata.version := rfl
  exact ⟨a, obtained, numbered, key, version, success,
    (untouched_until_write AccessToken.kind (.serial "t") [⟨.ofSeconds 0, .create firstToken⟩]).2.2
      obtained numbered key version (.inl success)⟩

end Store

end TokenSteward.Cluster
