import TokenSteward.Proofs.Cluster.Writes

/-! # Versions

Every request keeps a store sound: objects lie under their own keys, their versions were given out
by the store, and an object whose deletion was requested has a guard left. Since no version is given
out twice, a copy of an object that was read once is the stored object as long as the versions are
the same. Every change of what lies at a key is told as an event about that key.
-/

namespace TokenSteward.Cluster.Store

open TokenSteward.Resource

variable {σ τ : Type}

/-- What every request keeps. -/
structure Sound (s : Store σ τ) : Prop where
  filed : ∀ {k o}, s.get? k = some o → o.key = k
  given : ∀ {k o}, s.get? k = some o → 1 ≤ o.metadata.version ∧ o.metadata.version ≤ s.version
  guarded : ∀ {k o}, s.get? k = some o → o.isDeleting = true → o.metadata.guards ≠ []

theorem sound_empty (kind : String) (draws : Draws) : Sound (empty kind draws : Store σ τ) :=
  ⟨fun found => by simp [get?_empty] at found, fun found => by simp [get?_empty] at found,
    fun found => by simp [get?_empty] at found⟩

/-- What a request may do to a store: nothing, write one object, or remove one. -/
inductive Change (s : Store σ τ) : Store σ τ → Prop where
  | kept : Change s s
  | wrote {s' : Store σ τ} (o : Object σ τ) (wrote : Wrote s o s')
      (guarded : o.isDeleting = true → o.metadata.guards ≠ []) : Change s s'
  | removed (k : Key) (stored o : Object σ τ) (found : s.get? k = some stored) (same : o.key = k) :
      Change s (s.remove k o)

/-- Whatever is asked of a sound store, it makes one of the three changes. -/
theorem change_perform [DecidableEq τ] {s : Store σ τ} (sound : s.Sound) (now : Timestamp)
    (r : StoreRequest σ τ) : Change s (s.perform now r).2 := by
  cases r with
  | get k => exact .kept
  | list space wanted => exact .kept
  | create o =>
    change Change s (s.create now o).2
    rcases create_cases s now o with ⟨f, failed⟩ | ⟨name, s', made, _, wrote⟩
    · rw [failed]
      exact .kept
    · rw [made]
      exact .wrote _ wrote fun deleting => by simp [born, Object.isDeleting, Metadata.isDeleting] at deleting
  | update o =>
    change Change s (s.update o).2
    rcases update_cases s o with ⟨f, failed⟩ | ⟨stored, found, _, ⟨_, _, gone⟩ | ⟨held, written⟩⟩
    · rw [failed]
      exact .kept
    · rw [gone]
      exact .removed _ stored _ found rfl
    · rw [written]
      exact .wrote _ (wrote_write _ _ rfl) held
  | updateStatus o =>
    change Change s (s.updateStatus o).2
    rcases updateStatus_cases s o with ⟨f, failed⟩ | ⟨stored, found, _, ⟨_, same⟩ | ⟨_, written⟩⟩
    · rw [failed]
      exact .kept
    · rw [same]
      exact .kept
    · rw [written]
      have guarded : stored.isDeleting = true → stored.metadata.guards ≠ [] := sound.guarded found
      exact .wrote _ (wrote_write _ _ rfl) guarded
  | delete k =>
    change Change s (s.delete now k).2
    rcases delete_cases s now k with ⟨f, failed⟩ | ⟨stored, found, ⟨_, gone⟩ | ⟨held, rest⟩⟩
    · rw [failed]
      exact .kept
    · rw [gone]
      exact .removed k stored stored found (sound.filed found)
    · rcases rest with ⟨_, same⟩ | ⟨_, written⟩
      · rw [same]
        exact .kept
      · rw [written]
        exact .wrote _ (wrote_write _ _ rfl) fun _ => held

theorem Wrote.cases {s s' : Store σ τ} {o : Object σ τ} (wrote : Wrote s o s') {k : Key}
    {found : Object σ τ} (present : s'.get? k = some found) :
    (k = o.key ∧ found = o) ∨ (k ≠ o.key ∧ s.get? k = some found) := by
  by_cases here : k = o.key
  · subst here
    rw [wrote.get?_self] at present
    exact .inl ⟨rfl, (Option.some.inj present).symm⟩
  · rw [wrote.get?_of_ne here] at present
    exact .inr ⟨here, present⟩

theorem get?_of_remove {s : Store σ τ} {k j : Key} {o found : Object σ τ}
    (present : (s.remove k o).get? j = some found) : j ≠ k ∧ s.get? j = some found := by
  by_cases here : j = k
  · subst here
    rw [get?_remove_self] at present
    contradiction
  · rw [get?_remove_of_ne s o here] at present
    exact ⟨here, present⟩

/-- Soundness is kept by every change. -/
theorem Sound.change {s s' : Store σ τ} (sound : s.Sound) (change : Change s s') : s'.Sound := by
  cases change with
  | kept => exact sound
  | wrote o wrote guarded =>
    refine ⟨fun {k found} present => ?_, fun {k found} present => ?_, fun {k found} present => ?_⟩
    · rcases wrote.cases present with ⟨rfl, rfl⟩ | ⟨_, old⟩
      · rfl
      · exact sound.filed old
    · rw [wrote.version]
      rcases wrote.cases present with ⟨rfl, rfl⟩ | ⟨_, old⟩
      · rw [wrote.numbered]
        omega
      · have := sound.given old
        omega
    · rcases wrote.cases present with ⟨rfl, rfl⟩ | ⟨_, old⟩
      · exact guarded
      · exact sound.guarded old
  | removed k stored o found same =>
    exact ⟨fun present => sound.filed (get?_of_remove present).2,
      fun present => sound.given (get?_of_remove present).2,
      fun present => sound.guarded (get?_of_remove present).2⟩

theorem get?_write_self (s : Store σ τ) {k : Key} {o : Object σ τ} (here : o.key = k) :
    (s.write o).get? k = some o := by
  subst here
  exact Table.get?_insert_self _ _ _

theorem get?_write_of_ne (s : Store σ τ) {k : Key} {o : Object σ τ} (other : k ≠ o.key) :
    (s.write o).get? k = s.get? k :=
  Table.get?_insert_of_ne _ _ (Ne.symm other)

/-- A write tells of one key alone. -/
theorem Fate.of_write [DecidableEq τ] {s : Store σ τ} {now : Timestamp} {k j : Key}
    {r : StoreRequest σ τ} {o : Object σ τ} (filed : o.key = j)
    (new : j = k → Fate s now k r (some o)) : Fate s now k r ((s.write o).get? k) := by
  by_cases here : o.key = k
  · rw [get?_write_self s here]
    exact new (filed ▸ here)
  · rw [get?_write_of_ne s (Ne.symm here)]
    exact .same _

/-- A removal tells of one key alone. -/
theorem Fate.of_remove [DecidableEq τ] {s : Store σ τ} {now : Timestamp} {k j : Key}
    {r : StoreRequest σ τ} (o : Object σ τ) (gone : j = k → Fate s now k r none) :
    Fate s now k r ((s.remove j o).get? k) := by
  by_cases here : k = j
  · subst here
    rw [get?_remove_self]
    exact gone rfl
  · rw [get?_remove_of_ne _ _ here]
    exact .same _

/-- What lies at a key after a request has one of the fates. -/
theorem Sound.fate [DecidableEq τ] {s : Store σ τ} (sound : s.Sound) (now : Timestamp) (k : Key)
    (r : StoreRequest σ τ) : Fate s now k r ((s.perform now r).2.get? k) := by
  cases r with
  | get j => exact .same _
  | list space wanted => exact .same _
  | create o =>
    change Fate s now k _ ((s.create now o).2.get? k)
    rcases create_cases s now o with ⟨f, failed⟩ | ⟨name, s', made, absent, wrote⟩
    · rw [failed]
      exact .same _
    · rw [made]
      by_cases here : k = (s.born now o name).key
      · subst here
        rw [wrote.get?_self]
        exact .created o name absent
      · rw [wrote.get?_of_ne here]
        exact .same _
  | update o =>
    change Fate s now k _ ((s.update o).2.get? k)
    rcases update_cases s o with ⟨f, failed⟩ | ⟨stored, found, standing, ⟨deleting, bare, gone⟩ | ⟨held, written⟩⟩
    · rw [failed]
      exact .same _
    · rw [gone]
      apply Fate.of_remove
      rintro rfl
      exact .ended o stored rfl found standing deleting bare
    · rw [written]
      have filed : ((blended stored o).withVersion (s.version + 1)).key = o.key := rfl
      apply Fate.of_write filed
      rintro rfl
      exact .updated o stored rfl found standing held
  | updateStatus o =>
    change Fate s now k _ ((s.updateStatus o).2.get? k)
    rcases updateStatus_cases s o with ⟨f, failed⟩ | ⟨stored, found, standing, ⟨_, same⟩ | ⟨differs, written⟩⟩
    · rw [failed]
      exact .same _
    · rw [same]
      exact .same _
    · rw [written]
      have filed : stored.key = o.key := sound.filed found
      change ({ stored with status := o.status }.withVersion (s.version + 1)).key = o.key at filed
      apply Fate.of_write filed
      rintro rfl
      exact .restated o stored rfl found standing differs
  | delete j =>
    change Fate s now k _ ((s.delete now j).2.get? k)
    rcases delete_cases s now j with ⟨f, failed⟩ | ⟨stored, found, ⟨bare, gone⟩ | ⟨guarded, rest⟩⟩
    · rw [failed]
      exact .same _
    · rw [gone]
      apply Fate.of_remove
      rintro rfl
      exact .dropped stored found bare
    · rcases rest with ⟨_, same⟩ | ⟨alive, written⟩
      · rw [same]
        exact .same _
      · rw [written]
        have filed : stored.key = j := sound.filed found
        change (s.marked now stored).key = j at filed
        apply Fate.of_write filed
        rintro rfl
        exact .marked stored found guarded alive

/-- A write does not remove the object: it keeps a guard if the deletion was requested. -/
def Spares (s : Store σ τ) (o : Object σ τ) : Prop :=
  ∀ stored, s.get? o.key = some stored → StandsOn o stored → stored.isDeleting = true →
    o.metadata.guards ≠ []

/-- Specification and metadata are written without the status, so the status at every key stays as
long as the object is not removed. -/
theorem Sound.status_update [DecidableEq τ] {s : Store σ τ} (sound : s.Sound) (now : Timestamp)
    {o : Object σ τ} (spares : s.Spares o) (k : Key) :
    ((s.perform now (.update o)).2.get? k).map (·.status) = (s.get? k).map (·.status) := by
  have fate := sound.fate now k (.update o)
  generalize (s.perform now (.update o)).2.get? k = found at fate ⊢
  cases fate with
  | same r => rfl
  | updated o stored key found standing held =>
    rw [found]
    rfl
  | ended o stored key found standing deleting bare =>
    exact absurd bare (spares stored (key ▸ found) standing deleting)

/-- What an update answers is stored, unless it has removed the object. -/
theorem stored_of_update {s : Store σ τ} {o written : Object σ τ} (spares : s.Spares o)
    (answered : (s.update o).1 = .ok written) : (s.update o).2.get? o.key = some written := by
  rcases update_cases s o with ⟨f, failed⟩ | ⟨stored, found, standing, ⟨deleting, bare, _⟩ | ⟨_, done⟩⟩
  · rw [failed] at answered
    contradiction
  · exact absurd bare (spares stored found standing deleting)
  · rw [done] at answered ⊢
    obtain rfl := Except.ok.inj answered
    exact get?_write_self _ rfl

/-- What a write of a status answers is stored, and has the status. -/
theorem Sound.stored_of_updateStatus [DecidableEq τ] {s : Store σ τ} (sound : s.Sound)
    {o written : Object σ τ} (answered : (s.updateStatus o).1 = .ok written) :
    (s.updateStatus o).2.get? o.key = some written ∧ written.status = o.status := by
  rcases updateStatus_cases s o with ⟨f, failed⟩ | ⟨stored, found, _, ⟨same, done⟩ | ⟨_, done⟩⟩
  · rw [failed] at answered
    contradiction
  · rw [done] at answered ⊢
    obtain rfl := Except.ok.inj answered
    exact ⟨found, same⟩
  · rw [done] at answered ⊢
    obtain rfl := Except.ok.inj answered
    refine ⟨get?_write_self _ ?_, rfl⟩
    exact (show stored.key = o.key from sound.filed found)

/-! ## Copies -/

/-- A copy of an object that the store gave out once: an object that is stored under its key with
the same version is the same. -/
structure Snapshot (s : Store σ τ) (o : Object σ τ) : Prop where
  given : 1 ≤ o.metadata.version ∧ o.metadata.version ≤ s.version
  same : ∀ {stored}, s.get? o.key = some stored →
    stored.metadata.version = o.metadata.version → stored = o

theorem Sound.snapshot {s : Store σ τ} (sound : s.Sound) {k : Key} {o : Object σ τ}
    (found : s.get? k = some o) : s.Snapshot o := by
  refine ⟨sound.given found, fun {stored} present _ => ?_⟩
  rw [sound.filed found] at present
  exact Option.some.inj (present.symm.trans found)

/-- A copy stays one through every change. -/
theorem Snapshot.change {s s' : Store σ τ} {o : Object σ τ} (copy : s.Snapshot o)
    (change : Change s s') : s'.Snapshot o := by
  cases change with
  | kept => exact copy
  | wrote w wrote _ =>
    have given := copy.given
    refine ⟨by rw [wrote.version]; omega, fun {stored} present version => ?_⟩
    rcases wrote.cases present with ⟨_, rfl⟩ | ⟨_, old⟩
    · rw [wrote.numbered] at version
      omega
    · exact copy.same old version
  | removed k _ _ _ _ =>
    exact ⟨copy.given, fun present version => copy.same (get?_of_remove present).2 version⟩

/-- What is stored after a change and was given out before it, was stored before it. -/
theorem Snapshot.stored_before {s s' : Store σ τ} {o : Object σ τ} (copy : s.Snapshot o)
    (change : Change s s') {k : Key} (stored : s'.get? k = some o) : s.get? k = some o := by
  cases change with
  | kept => exact stored
  | wrote w wrote _ =>
    rcases wrote.cases stored with ⟨_, rfl⟩ | ⟨_, old⟩
    · have given := copy.given
      rw [wrote.numbered] at given
      omega
    · exact old
  | removed j _ _ _ _ => exact (get?_of_remove stored).2

/-- A write that stands on a copy stands on the stored object only if that is the copy. -/
theorem Snapshot.eq_of_standsOn {s : Store σ τ} {o incoming stored : Object σ τ}
    (copy : s.Snapshot o) (key : incoming.key = o.key)
    (version : incoming.metadata.version = o.metadata.version)
    (found : s.get? incoming.key = some stored) (standing : StandsOn incoming stored) :
    stored = o := by
  have given := copy.given
  rcases standing with none | same
  · omega
  · exact copy.same (key ▸ found) (same.symm.trans version)

/-- An update made from a copy, with nothing changed that only the store decides on, is carried out
only on top of that very copy. -/
theorem Snapshot.update_cases {s s' : Store σ τ} {w o a : Object σ τ} (copy : s.Snapshot w)
    (key : o.key = w.key) (version : o.metadata.version = w.metadata.version)
    (alike : blended w o = o) (done : s.update o = (.ok a, s')) : s.get? w.key = some w ∧
      ((w.isDeleting = true ∧ o.metadata.guards = [] ∧ a = o ∧ s' = s.remove w.key o) ∨
        ((w.isDeleting = true → o.metadata.guards ≠ []) ∧ a = o.withVersion (s.version + 1) ∧
          s' = s.write (o.withVersion (s.version + 1)))) := by
  rcases Store.update_cases s o with ⟨f, failed⟩ | ⟨stored, found, standing, rest⟩
  · cases failed.symm.trans done
  · obtain rfl := copy.eq_of_standsOn key version found standing
    rw [key] at found
    refine ⟨found, ?_⟩
    rw [alike, key] at rest
    rcases rest with ⟨deleting, bare, gone⟩ | ⟨held, written⟩
    · cases gone.symm.trans done
      exact .inl ⟨deleting, bare, rfl, rfl⟩
    · cases written.symm.trans done
      exact .inr ⟨held, rfl, rfl⟩

/-- Another status is written for a copy only on top of that very copy. -/
theorem Snapshot.updateStatus_cases [DecidableEq τ] {s s' : Store σ τ} {w a : Object σ τ}
    {status : τ} (copy : s.Snapshot w) (differs : status ≠ w.status)
    (done : s.updateStatus { w with status := status } = (.ok a, s')) : s.get? w.key = some w ∧
      a = { w with status := status }.withVersion (s.version + 1) ∧
        s' = s.write ({ w with status := status }.withVersion (s.version + 1)) := by
  rcases Store.updateStatus_cases s { w with status := status } with
    ⟨f, failed⟩ | ⟨stored, found, standing, rest⟩
  · cases failed.symm.trans done
  · obtain rfl := copy.eq_of_standsOn rfl rfl found standing
    refine ⟨found, ?_⟩
    rcases rest with ⟨same, _⟩ | ⟨_, written⟩
    · exact absurd same.symm differs
    · cases written.symm.trans done
      exact ⟨rfl, rfl⟩

/-! ## Events -/

/-- What lies at a key changes only with an event about the key. -/
theorem Change.told {s s' : Store σ τ} (change : Change s s') {k : Key}
    (differs : s'.get? k ≠ s.get? k) : ∃ e, e.object.key = k ∧ s'.history = e :: s.history := by
  cases change with
  | kept => exact absurd rfl differs
  | wrote o wrote _ =>
    refine ⟨.applied o, ?_, wrote.history⟩
    by_cases here : k = o.key
    · exact here.symm
    · exact absurd (wrote.get?_of_ne here) differs
  | removed j _ o _ same =>
    refine ⟨.deleted o, ?_, rfl⟩
    by_cases here : k = j
    · exact same.trans here.symm
    · exact absurd (get?_remove_of_ne s o here) differs

/-- The history only grows, by one event at most. -/
theorem Change.history {s s' : Store σ τ} (change : Change s s') :
    s'.history = s.history ∨ ∃ e, s'.history = e :: s.history := by
  cases change with
  | kept => exact .inl rfl
  | wrote _ wrote _ => exact .inr ⟨_, wrote.history⟩
  | removed _ _ _ _ _ => exact .inr ⟨_, rfl⟩

end TokenSteward.Cluster.Store
