import TokenSteward.Proofs.Cluster.Calls

/-! # What was told is what is stored

Who carries out all changes that a store has told, one after the other, holds the objects of the
store. A call tells one change if it changes the objects, and none otherwise, and what is written
later has a higher version.
-/

namespace TokenSteward.Cluster

open TokenSteward.Resource

variable {σ τ : Type}

namespace Event

/-- The objects after a change. -/
def apply (objects : Table Key (Object σ τ)) : Event σ τ → Table Key (Object σ τ)
  | .applied o => objects.insert o.key o
  | .deleted o => objects.erase o.key

/-- The version of an object that was written. -/
def version? : Event σ τ → Option Nat
  | .applied o => some o.metadata.version
  | .deleted _ => none

end Event

/-- The objects after some changes, if there were none before. -/
def replay (events : List (Event σ τ)) : Table Key (Object σ τ) :=
  events.foldl Event.apply Table.empty

namespace Store

variable {s s' : Store σ τ}

/-- All changes that were told, the first one first. -/
def changes (s : Store σ τ) : List (Event σ τ) := s.history.reverse

/-- A follower is shown the changes in the order in which they were told. -/
theorem change?_eq_getElem? (s : Store σ τ) (number : Nat) : s.change? number = s.changes[number]? := by
  rw [change?, published, changes]
  split
  · next early => exact (List.getElem?_reverse early).symm
  · next late =>
    refine (List.getElem?_eq_none ?_).symm
    rw [List.length_reverse]
    exact Nat.le_of_not_lt late

/-- A store tells one change, which makes the objects others. What was written has a version above
all before. -/
structure Tells (s : Store σ τ) (e : Event σ τ) (s' : Store σ τ) : Prop where
  differs : s'.objects ≠ s.objects
  objects : s'.objects = e.apply s.objects
  changes : s'.changes = s.changes ++ [e]
  version : s.version ≤ s'.version
  next : ∀ v ∈ e.version?, s.version < v ∧ v ≤ s'.version

theorem Wrote.tells {o : Object σ τ} (wrote : Wrote s o s') (sound : s.Sound) :
    s.Tells (.applied o) s' where
  differs same := by
    have before : s.get? o.key = some o := by
      rw [get?, ← same]
      exact wrote.get?_self
    have given := sound.given before
    rw [wrote.numbered] at given
    omega
  objects := wrote.objects
  changes := by simp [Store.changes, wrote.history]
  version := Nat.le_of_lt (wrote.version ▸ Nat.lt_succ_self _)
  next := by
    rintro v ⟨⟩
    rw [wrote.numbered, wrote.version]
    omega

theorem tells_remove {k : Key} {stored o : Object σ τ} (found : s.get? k = some stored)
    (key : o.key = k) : s.Tells (.deleted o) (s.remove k o) where
  differs same := by
    have gone : (s.remove k o).get? k = none := get?_remove_self s k o
    rw [get?, same] at gone
    exact absurd (found.symm.trans gone) (by simp)
  objects := by rw [Event.apply, key]; rfl
  changes := by simp [Store.changes, remove]
  version := Nat.le_refl _
  next _ among := nomatch among

/-- Nothing happens to a store without being told. -/
theorem Change.tells (change : Change s s') (sound : s.Sound) : s' = s ∨ ∃ e, s.Tells e s' := by
  cases change with
  | kept => exact .inl rfl
  | wrote o wrote _ => exact .inr ⟨_, wrote.tells sound⟩
  | removed k stored o found key => exact .inr ⟨_, tells_remove found key⟩

/-- Who has heard all from the beginning knows the objects, and has heard of ever higher versions. -/
structure Retold (s : Store σ τ) : Prop where
  objects : replay s.changes = s.objects
  rising : (s.changes.filterMap Event.version?).Pairwise (· < ·)
  given : ∀ v ∈ s.changes.filterMap Event.version?, v ≤ s.version

theorem retold_empty (kind : String) (draws : Draws) : (empty kind draws : Store σ τ).Retold :=
  ⟨rfl, List.Pairwise.nil, fun _ among => absurd among List.not_mem_nil⟩

theorem Tells.retold {e : Event σ τ} (tells : s.Tells e s') (retold : s.Retold) : s'.Retold where
  objects := by
    rw [tells.changes, replay, List.foldl_append, tells.objects, ← retold.objects]
    rfl
  rising := by
    rw [tells.changes, List.filterMap_append, List.pairwise_append]
    refine ⟨retold.rising, ?_, fun v early w last => ?_⟩
    · cases e with
      | applied o => exact List.pairwise_singleton _ _
      | deleted o => exact List.Pairwise.nil
    · obtain ⟨e', only, version⟩ := List.mem_filterMap.mp last
      obtain rfl := List.mem_singleton.mp only
      exact Nat.lt_of_le_of_lt (retold.given v early) (tells.next w version).1
  given := by
    intro v among
    rw [tells.changes, List.filterMap_append, List.mem_append] at among
    rcases among with early | last
    · exact Nat.le_trans (retold.given v early) tells.version
    · obtain ⟨e', only, version⟩ := List.mem_filterMap.mp last
      obtain rfl := List.mem_singleton.mp only
      exact (tells.next v version).2

variable [DecidableEq τ]

theorem Retold.next (retold : s.Retold) (sound : s.Sound) (c : Call σ τ) : (s.next c).Retold := by
  rcases (sound.change_next c).tells sound with same | ⟨e, tells⟩
  · rw [same]
    exact retold
  · exact tells.retold retold

theorem retold_ofCalls (kind : String) (draws : Draws) (calls : List (Call σ τ)) :
    (ofCalls kind draws calls).Retold :=
  (sound_empty kind draws).kept (fun sound holds c => holds.next sound c) (retold_empty kind draws) calls

/-- Whatever a store was asked: the changes that a follower is shown, carried out in their order, yield
its objects, and those that tell of writes have ever higher versions. Another call tells one change if
it changes the objects, and none otherwise. -/
theorem replay_changes (kind : String) (draws : Draws) (calls : List (Call σ τ)) :
    (∀ number, (ofCalls kind draws calls).change? number = (ofCalls kind draws calls).changes[number]?) ∧
      replay (ofCalls kind draws calls).changes = (ofCalls kind draws calls).objects ∧
      ((ofCalls kind draws calls).changes.filterMap Event.version?).Pairwise (· < ·) ∧
      ∀ c : Call σ τ,
        (((ofCalls kind draws calls).next c).objects ≠ (ofCalls kind draws calls).objects ∧
          ∃ e, ((ofCalls kind draws calls).next c).changes = (ofCalls kind draws calls).changes ++ [e]) ∨
        (((ofCalls kind draws calls).next c).objects = (ofCalls kind draws calls).objects ∧
          ((ofCalls kind draws calls).next c).changes = (ofCalls kind draws calls).changes) := by
  have retold := retold_ofCalls kind draws calls
  have sound := sound_ofCalls kind draws calls
  refine ⟨change?_eq_getElem? _, retold.objects, retold.rising, fun c => ?_⟩
  rcases (sound.change_next c).tells sound with same | ⟨e, tells⟩
  · rw [same]
    exact .inr ⟨rfl, rfl⟩
  · exact .inl ⟨tells.differs, e, tells.changes⟩

end Store

end TokenSteward.Cluster
