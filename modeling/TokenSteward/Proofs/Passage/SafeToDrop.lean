import TokenSteward.Proofs.Outcome.Passes
import TokenSteward.Proofs.Passage.Guards
import TokenSteward.Proofs.Passage.Timely

/-! # Passes that are given up

A pass may be given up after any of its exchanges, and any of its requests may fail. As long as
anything of it is left, it has left the status of its object alone; the last request alone writes
that. Of a token the guards are never left half put on, and none comes off without need.
-/

namespace TokenSteward

open TokenSteward.Cluster TokenSteward.Resource Pass

/-- An exchange asks for another status of the object that a pass is over. -/
def Errand.Restates : Errand → Exchange → Prop
  | .token _ _, x => ∃ o, x.request = .tokens (.updateStatus o)
  | .binding _ _, x => ∃ o, x.request = .bindings (.updateStatus o)
  | .update _ _, _ => False

theorem Errand.keeps_of_fails {e : Errand} {x : Exchange} (fails : x.Fails) : e.Keeps x := by
  unfold Keeps
  rw [Exchange.left_of_fails fails]

namespace TokenDesk

variable {d : TokenDesk} {k : Key} {past : List Exchange} {x : Exchange}

/-- What writes a token without another status leaves the status alone. -/
private theorem keeps_of_write {t w : AccessToken} (key : w.key = k) (status : w.status = t.status)
    (stored : x.cluster.tokens.get? k = some t) (written : x.left.tokens = x.cluster.tokens.write w) :
    (Errand.token d k).Keeps x := by
  simp only [Errand.Keeps, Errand.status?, written, Store.get?_write_self _ key, stored,
    Option.map_some, status]

/-- An exchange keeps the status, writes another one, or removes the token. -/
theorem Timely.keeps (timely : d.Timely k past x) : (Errand.token d k).Keeps x ∨
    (Errand.token d k).Restates x ∨ (Errand.token d k).status? x.left = none := by
  cases timely with
  | idle _ same => exact .inl (by simp only [Errand.Keeps, Errand.status?, same])
  | rejected fails _ => exact .inl (Errand.keeps_of_fails fails)
  | @guarded t y _ _ stored written =>
    obtain ⟨guards, same⟩ := exists_guards_guarded t
    refine .inl (keeps_of_write ?_ ?_ stored written)
    · exact (key_guarded t).trans (x.sound.tokens.filed stored)
    · rw [same]
      rfl
  | @released t y seen guards _ _ _ stored written =>
    have filed : t.key = k := x.sound.tokens.filed stored
    exact .inl (keeps_of_write (t := t)
      (w := { t with metadata := { t.metadata with guards := guards } }.withVersion
        (x.cluster.tokens.version + 1)) filed rfl stored written)
  | ended _ _ _ _ removed =>
    refine .inr (.inr ?_)
    simp only [Errand.status?, removed, Store.get?_remove_self, Option.map_none]
  | restated _ _ _ _ asks _ _ => exact .inr (.inl ⟨_, asks⟩)

/-- An exchange after which a pass may ask for more keeps the status. -/
theorem Early.keeps (early : Early k x) : (Errand.token d k).Keeps x := by
  cases early with
  | read reads => simp only [Errand.Keeps, Errand.status?, reads.stored.2]
  | put alive puts =>
    obtain ⟨met, c, rfl, _⟩ := puts
    exact keeps_update d k (guards_guarded _)
  | other other => simp only [Errand.Keeps, Errand.status?, Exchange.left, Cluster.tokens_answer _ _ _ other]

end TokenDesk

namespace BindingDesk

variable {d : BindingDesk} {k : Key} {past : List Exchange} {x : Exchange}

/-- An exchange keeps the status, or writes another one. -/
theorem Timely.keeps (timely : d.Timely k past x) :
    (Errand.binding d k).Keeps x ∨ (Errand.binding d k).Restates x := by
  cases timely with
  | idle _ same => exact .inl (by simp only [Errand.Keeps, Errand.status?, same])
  | rejected fails _ => exact .inl (Errand.keeps_of_fails fails)
  | @labelled b y sought token _ _ _ stored written =>
    have filed : ((BindingDesk.labelled b token.metadata.name).withVersion
        (x.cluster.bindings.version + 1)).key = k := x.sound.bindings.filed (o := b) stored
    left
    simp only [Errand.Keeps, Errand.status?, written, Store.get?_write_self _ filed, stored,
      Option.map_some]
    rfl
  | restated _ _ _ _ asks _ _ => exact .inr ⟨_, asks⟩

end BindingDesk

namespace UpdateDesk

variable {d : UpdateDesk} {k : Key} {past : List Exchange} {r : Request}

/-- A pass over a data update that asks for more has left it alone. -/
theorem keeps_of_reaches (reaches : (d.pass k).Reaches past r) :
    ∀ y ∈ past, (Errand.update d k).Keeps y := by
  unfold pass at reaches
  rw [reaches_bind] at reaches
  rcases reaches with here | ⟨first, rest, found, rfl, read, there⟩
  · obtain ⟨rfl, _⟩ := reaches_updates.mp here
    simp
  · obtain ⟨x, rfl, reads⟩ := yields_updates.mp read
    have kept : (Errand.update d k).Keeps x := by
      obtain ⟨met, c, rfl, said⟩ := reads
      rcases Cluster.answer_updates_cases met.cluster c (.get k) with ⟨f, failed⟩ | ⟨_, served⟩
      · simp only [Errand.Keeps, Exchange.left, failed]
      · simp only [Errand.Keeps, Errand.status?, Exchange.left, served, Store.perform]
    refine List.forall_mem_cons.mpr ⟨kept, ?_⟩
    cases found with
    | none => exact absurd there reaches_pure
    | some u =>
      dsimp only at there
      rw [reaches_bind] at there
      rcases there with here | ⟨_, rest, _, rfl, queued, there⟩
      · obtain ⟨rfl, _⟩ := reaches_attempt.mp here
        simp
      · obtain ⟨y, _, rfl, tells, _⟩ := yields_attempt.mp queued
        have kept : (Errand.update d k).Keeps y := by
          obtain ⟨met, c, rfl, _⟩ := tells
          rfl
        refine List.forall_mem_cons.mpr ⟨kept, ?_⟩
        rw [reaches_bind] at there
        rcases there with here | ⟨_, _, answer, _, _, there⟩
        · obtain ⟨rfl, _⟩ := reaches_attempt.mp here
          simp
        · exfalso
          split at there
          · exact reaches_pure there
          · split at there
            · exact reaches_pure there
            · exact reaches_fail there

/-- An exchange of a pass over a data update leaves it alone, or removes it. -/
theorem keeps_of_requests {x : Exchange} (asks : d.Requests k x.request) :
    (Errand.update d k).Keeps x ∨ (Errand.update d k).status? x.left = none := by
  obtain ⟨met, c, r⟩ := x
  have fate {r : StoreRequest DataUpdateSpec Unit} :
      (Exchange.left ⟨met, c, .updates r⟩).updates.get? k = met.cluster.updates.get? k ∨
        Store.Fate met.cluster.updates met.cluster.now k r
          ((Exchange.left ⟨met, c, .updates r⟩).updates.get? k) := by
    rcases Cluster.answer_updates_cases met.cluster c r with ⟨f, failed⟩ | ⟨_, served⟩
    · exact .inl (by simp only [Exchange.left, failed])
    · refine .inr ?_
      simp only [Exchange.left, served]
      exact met.sound.updates.fate met.cluster.now k r
  simp only [Errand.Keeps, Errand.status?]
  cases asks with
  | read =>
    left
    rcases fate (r := .get k) with same | fate
    · rw [same]
    · generalize (Exchange.left ⟨met, c, .updates (.get k)⟩).updates.get? k = found at fate ⊢
      cases fate with
      | same _ => rfl
  | enqueue token => exact .inl rfl
  | delete =>
    rcases fate (r := .delete k) with same | fate
    · exact .inl (by rw [same])
    · generalize (Exchange.left ⟨met, c, .updates (.delete k)⟩).updates.get? k = found at fate ⊢
      cases fate with
      | same _ => exact .inl rfl
      | dropped stored found bare => exact .inr rfl
      | marked stored found guarded alive =>
        rw [found]
        exact .inl rfl

end UpdateDesk

namespace Errand

variable {e : Errand} {g : Ground} {comes : Nat → Between} {past late : List Exchange} {x : Exchange}

/-- Before any request of a pass the status was left alone, and no other one was asked for. -/
theorem keeps_before (parts : (e.pass.play comes 0 g).1 = past ++ x :: late) :
    ∀ y ∈ past, e.Keeps y ∧ ¬ e.Restates y := by
  have reaches := reaches_of_play parts
  intro y here
  cases e with
  | token d k =>
    have early := (TokenDesk.step_of_reaches reaches).early y here
    exact ⟨early.keeps, fun ⟨o, asks⟩ => TokenDesk.not_early_of_status asks early⟩
  | binding d k =>
    have quiet : ¬ (Errand.binding d k).Restates y := fun ⟨o, asks⟩ =>
      (BindingDesk.step_of_reaches reaches).not_restated y here o asks
    obtain ⟨first, second, rfl⟩ := List.append_of_mem here
    rw [List.append_assoc, List.cons_append] at parts
    have timely : d.Timely k first y := Errand.timely_of_play _ g comes parts
    exact ⟨timely.keeps.resolve_right quiet, quiet⟩
  | update d k => exact ⟨UpdateDesk.keeps_of_reaches reaches y here, id⟩

/-- An exchange of a pass leaves the status alone, asks for another one, or removes the object. -/
theorem keeps_cases (parts : (e.pass.play comes 0 g).1 = past ++ x :: late) :
    e.Keeps x ∨ e.Restates x ∨ e.status? x.left = none := by
  cases e with
  | token d k =>
    have timely : d.Timely k past x := Errand.timely_of_play _ g comes parts
    exact timely.keeps
  | binding d k =>
    have timely : d.Timely k past x := Errand.timely_of_play _ g comes parts
    exact timely.keeps.imp_right .inl
  | update d k =>
    have asks := ((d.asks_pass k).reaches (reaches_of_play parts)).2
    exact (UpdateDesk.keeps_of_requests asks).imp_right .inr

/-- A pass that has gone through some exchanges has not come to a good end: more is to come, or the
last request has failed, or the pass fails. -/
def Stops (e : Errand) (g : Ground) (comes : Nat → Between) (past late : List Exchange) : Prop :=
  late ≠ [] ∨ (∃ x ∈ past.getLast?, x.Fails) ∨ ∃ f, (e.pass.play comes 0 g).2 = .error f

/-- What a pass has done that is given up after some exchanges, so that it may be given up there. Unless
it has come to a good end, none of them has changed the status; if nobody else asks for anything, it is
the one from before the pass. Only the very last exchange changes the status, by asking for another one
or by removing the object, and nothing follows such a request. The guards of a token are in order. -/
structure SafeToDrop (e : Errand) (g : Ground) (comes : Nat → Between) (past late : List Exchange) :
    Prop where
  keeps : e.Stops g comes past late → ∀ y ∈ past, e.Keeps y
  still : e.Stops g comes past late → (∀ n, (comes n).others = []) →
    e.status? (reached g past) = e.status? g.cluster
  changes : ∀ y ∈ past, ¬ e.Keeps y →
    late = [] ∧ past.getLast? = some y ∧ (e.Restates y ∨ e.status? y.left = none)
  last : ∀ first y rest, past ++ late = first ++ y :: rest → e.Restates y → rest = []
  guards : ∀ d k, e = .token d k → TokenDesk.Guarding k past late

private theorem keeps_of_stops (parts : (e.pass.play comes 0 g).1 = past ++ late)
    (stops : e.Stops g comes past late) : ∀ y ∈ past, e.Keeps y := by
  rcases stops with more | ⟨x, last, fails⟩ | ⟨f, failed⟩
  · obtain ⟨x, rest, rfl⟩ := List.exists_cons_of_ne_nil more
    exact fun y here => (keeps_before parts y here).1
  · obtain ⟨before, rfl⟩ := List.getLast?_eq_some_iff.mp last
    rw [List.append_assoc] at parts
    exact forall_mem_snoc (fun y here => (keeps_before parts y here).1) (keeps_of_fails fails)
  · have outcome := e.outcome g comes
    rw [failed] at outcome
    intro y here
    apply outcome.1
    rw [parts]
    exact List.mem_append_left _ here

/-- What holds of every pass that is given up, wherever that is. -/
theorem safeToDrop_take (e : Errand) (g : Ground) (comes : Nat → Between) (n : Nat) :
    e.SafeToDrop g comes ((e.pass.play comes 0 g).1.take n) ((e.pass.play comes 0 g).1.drop n) := by
  have parts := (List.take_append_drop n (e.pass.play comes 0 g).1).symm
  generalize (e.pass.play comes 0 g).1.take n = past at parts ⊢
  generalize (e.pass.play comes 0 g).1.drop n = late at parts ⊢
  have keeps := keeps_of_stops parts
  refine ⟨keeps, fun stops quiet => ?_, fun y here changed => ?_, fun first y rest same restates => ?_, ?_⟩
  · have timeless (c : Cluster) (clock : Int64) : e.status? { c with clock := clock } = e.status? c := by
      cases e <;> rfl
    exact undisturbed timeless quiet parts (keeps stops)
  · obtain ⟨first, rest, rfl⟩ := List.append_of_mem here
    rw [List.append_assoc, List.cons_append] at parts
    have none : rest ++ late = [] := by
      by_contra more
      obtain ⟨z, others, next⟩ := List.exists_cons_of_ne_nil more
      rw [next, List.append_cons] at parts
      exact changed (keeps_before parts y (by simp)).1
    obtain ⟨rfl, rfl⟩ := List.append_eq_nil_iff.mp none
    exact ⟨rfl, by simp, (keeps_cases parts).resolve_left changed⟩
  · rw [same] at parts
    by_contra more
    obtain ⟨z, others, rfl⟩ := List.exists_cons_of_ne_nil more
    rw [List.append_cons] at parts
    exact (keeps_before parts y (by simp)).2 restates
  · rintro d k rfl
    exact TokenDesk.guarding_of_play g comes parts

end Errand

end TokenSteward
