import TokenSteward.Cluster.Request

/-! # What requests do to a store

A request leaves a store as it is, writes one object with the next version, or removes one. The
cases of each request are inverted once, and what holds of every store follows from the three kinds
of change: objects lie under their own keys, no version was given out twice, and an object that is
still there although its deletion was requested is guarded. A copy of an object that was read once
is the stored object as long as the versions are the same.
-/

namespace TokenSteward.Cluster.Store

open TokenSteward.Resource

variable {σ τ : Type}

/-- The store after an object was written with the next version. -/
structure Wrote (s : Store σ τ) (o : Object σ τ) (s' : Store σ τ) : Prop where
  objects : s'.objects = s.objects.insert o.key o
  numbered : o.metadata.version = s.version + 1
  version : s'.version = s.version + 1
  history : s'.history = .applied o :: s.history

theorem get?_empty (kind : String) (draws : Draws) (k : Key) : (empty kind draws : Store σ τ).get? k = none := rfl

theorem wrote_write (s : Store σ τ) (o : Object σ τ) (numbered : o.metadata.version = s.version + 1) :
    Wrote s o (s.write o) :=
  ⟨rfl, numbered, numbered, rfl⟩

theorem Wrote.get?_self {s s' : Store σ τ} {o : Object σ τ} (wrote : Wrote s o s') :
    s'.get? o.key = some o := by
  simp [get?, wrote.objects]

theorem Wrote.get?_of_ne {s s' : Store σ τ} {o : Object σ τ} (wrote : Wrote s o s') {k : Key}
    (other : k ≠ o.key) : s'.get? k = s.get? k := by
  simp only [get?, wrote.objects]
  exact Table.get?_insert_of_ne _ _ (Ne.symm other)

theorem get?_remove_self (s : Store σ τ) (k : Key) (o : Object σ τ) :
    (s.remove k o).get? k = none :=
  Table.get?_erase_self _ _

theorem get?_remove_of_ne (s : Store σ τ) {k j : Key} (o : Object σ τ) (other : j ≠ k) :
    (s.remove k o).get? j = s.get? j :=
  Table.get?_erase_of_ne _ (Ne.symm other)

/-- The object of a write stands on a version if it names that version or none. -/
def StandsOn (incoming stored : Object σ τ) : Prop :=
  incoming.metadata.version = 0 ∨ incoming.metadata.version = stored.metadata.version

theorem writable_cases (s : Store σ τ) (o : Object σ τ) :
    (∃ f, s.writable o = .error f) ∨
      ∃ stored, s.get? o.key = some stored ∧ StandsOn o stored ∧ s.writable o = .ok stored := by
  cases found : s.get? o.key with
  | none => exact .inl ⟨.notFound s.kind o.key.text, by simp only [writable, found]⟩
  | some stored =>
    by_cases clash : o.metadata.version ≠ 0 ∧ o.metadata.version ≠ stored.metadata.version
    · exact .inl ⟨_, by simp only [writable, found, conflict?, if_pos clash]; rfl⟩
    · refine .inr ⟨stored, rfl, ?_, by simp only [writable, found, conflict?, if_neg clash]⟩
      simp only [StandsOn]
      omega

/-- What becomes of an object that is created. -/
def born (s : Store σ τ) (now : Timestamp) (o : Object σ τ) (name : String) : Object σ τ :=
  { o with metadata := { o.metadata with
      name := name
      uid := s.nextUid
      version := s.version + 1
      created := some now
      deleted := none } }

theorem create_cases (s : Store σ τ) (now : Timestamp) (o : Object σ τ) :
    (∃ f, s.create now o = (.error f, s)) ∨
      ∃ name s', s.create now o = (.ok (s.born now o name), s') ∧
        s.get? (s.born now o name).key = none ∧ Wrote s (s.born now o name) s' := by
  simp only [create]
  split
  · exact .inl ⟨_, rfl⟩
  · split
    · exact .inl ⟨_, rfl⟩
    · next name namings _ =>
      split
      · exact .inl ⟨_, rfl⟩
      · next free =>
        have absent : s.get? (s.born now o name).key = none := by
          simpa [Table.contains, get?, born, Object.key, Metadata.key] using free
        exact .inr ⟨name, _, rfl, absent, ⟨rfl, rfl, rfl, rfl⟩⟩

theorem update_cases (s : Store σ τ) (o : Object σ τ) :
    (∃ f, s.update o = (.error f, s)) ∨
      ∃ stored, s.get? o.key = some stored ∧ StandsOn o stored ∧
        ((stored.isDeleting = true ∧ o.metadata.guards = [] ∧
            s.update o = (.ok (blended stored o), s.remove o.key (blended stored o))) ∨
          ((stored.isDeleting = true → o.metadata.guards ≠ []) ∧
            s.update o = (.ok ((blended stored o).withVersion (s.version + 1)),
              s.write ((blended stored o).withVersion (s.version + 1))))) := by
  rcases writable_cases s o with ⟨f, failed⟩ | ⟨stored, found, standing, ok⟩
  · exact .inl ⟨f, by simp only [update, failed]⟩
  · refine .inr ⟨stored, found, standing, ?_⟩
    simp only [update, ok]
    split
    · next bare =>
      rw [Bool.and_eq_true, List.isEmpty_iff] at bare
      exact .inl ⟨bare.1, bare.2, rfl⟩
    · next held =>
      refine .inr ⟨fun deleting bare => held ?_, rfl⟩
      rw [Bool.and_eq_true, List.isEmpty_iff]
      exact ⟨deleting, bare⟩

theorem updateStatus_cases [DecidableEq τ] (s : Store σ τ) (o : Object σ τ) :
    (∃ f, s.updateStatus o = (.error f, s)) ∨
      ∃ stored, s.get? o.key = some stored ∧ StandsOn o stored ∧
        ((stored.status = o.status ∧ s.updateStatus o = (.ok stored, s)) ∨
          (stored.status ≠ o.status ∧
            s.updateStatus o = (.ok ({ stored with status := o.status }.withVersion (s.version + 1)),
              s.write ({ stored with status := o.status }.withVersion (s.version + 1))))) := by
  rcases writable_cases s o with ⟨f, failed⟩ | ⟨stored, found, standing, ok⟩
  · exact .inl ⟨f, by simp only [updateStatus, failed]⟩
  · refine .inr ⟨stored, found, standing, ?_⟩
    simp only [updateStatus, ok]
    split
    · next same => exact .inl ⟨same, rfl⟩
    · next other => exact .inr ⟨other, rfl⟩

/-- An object whose deletion is requested at an instant, as it is written then. -/
def marked (s : Store σ τ) (now : Timestamp) (stored : Object σ τ) : Object σ τ :=
  { stored with metadata := { stored.metadata with deleted := some now, version := s.version + 1 } }

theorem delete_cases (s : Store σ τ) (now : Timestamp) (k : Key) :
    (∃ f, s.delete now k = (.error f, s)) ∨
      ∃ stored, s.get? k = some stored ∧
        ((stored.metadata.guards = [] ∧ s.delete now k = (.ok (), s.remove k stored)) ∨
          (stored.metadata.guards ≠ [] ∧
            ((stored.isDeleting = true ∧ s.delete now k = (.ok (), s)) ∨
              (stored.isDeleting = false ∧
                s.delete now k = (.ok (), s.write (s.marked now stored)))))) := by
  simp only [delete]
  cases found : s.get? k with
  | none => exact .inl ⟨_, rfl⟩
  | some stored =>
    refine .inr ⟨stored, rfl, ?_⟩
    dsimp only
    by_cases bare : stored.metadata.guards = []
    · exact .inl ⟨bare, by simp [bare]⟩
    · refine .inr ⟨bare, ?_⟩
      have unemptied : stored.metadata.guards.isEmpty = false := by simpa using bare
      cases deleting : stored.isDeleting with
      | true => exact .inl ⟨rfl, by simp [unemptied]⟩
      | false => exact .inr ⟨rfl, by simp [unemptied, marked]⟩

/-- A request that fails has no effect. -/
theorem perform_of_error [DecidableEq τ] {s : Store σ τ} {now : Timestamp} {r : StoreRequest σ τ}
    {f : StoreFailure} (failed : (s.perform now r).1 = .error f) : (s.perform now r).2 = s := by
  cases r with
  | get k => rfl
  | list space wanted => rfl
  | create o =>
    change (s.create now o).1 = _ at failed
    change (s.create now o).2 = s
    rcases create_cases s now o with ⟨g, same⟩ | ⟨name, s', made, _⟩
    · rw [same]
    · rw [made] at failed
      contradiction
  | update o =>
    change (s.update o).1 = _ at failed
    change (s.update o).2 = s
    rcases update_cases s o with ⟨g, same⟩ | ⟨stored, _, _, ⟨_, _, gone⟩ | ⟨_, written⟩⟩
    · rw [same]
    · rw [gone] at failed
      contradiction
    · rw [written] at failed
      contradiction
  | updateStatus o =>
    change (s.updateStatus o).1 = _ at failed
    change (s.updateStatus o).2 = s
    rcases updateStatus_cases s o with ⟨g, same⟩ | ⟨stored, _, _, ⟨_, same⟩ | ⟨_, written⟩⟩
    · rw [same]
    · rw [same]
    · rw [written] at failed
      contradiction
  | delete k =>
    change (s.delete now k).1 = _ at failed
    change (s.delete now k).2 = s
    rcases delete_cases s now k with ⟨g, same⟩ | ⟨stored, _, ⟨_, gone⟩ | ⟨_, ⟨_, same⟩ | ⟨_, written⟩⟩⟩
    · rw [same]
    · rw [gone] at failed
      contradiction
    · rw [same]
    · rw [written] at failed
      contradiction

/-- What a request may make of what lies at a key. -/
inductive Fate (s : Store σ τ) (now : Timestamp) (k : Key) :
    StoreRequest σ τ → Option (Object σ τ) → Prop where
  | same (r : StoreRequest σ τ) : Fate s now k r (s.get? k)
  | created (o : Object σ τ) (name : String) (absent : s.get? k = none) :
      Fate s now k (.create o) (some (s.born now o name))
  | updated (o stored : Object σ τ) (key : o.key = k) (found : s.get? k = some stored)
      (standing : StandsOn o stored) (held : stored.isDeleting = true → o.metadata.guards ≠ []) :
      Fate s now k (.update o) (some ((blended stored o).withVersion (s.version + 1)))
  | ended (o stored : Object σ τ) (key : o.key = k) (found : s.get? k = some stored)
      (standing : StandsOn o stored) (deleting : stored.isDeleting = true)
      (bare : o.metadata.guards = []) : Fate s now k (.update o) none
  | restated (o stored : Object σ τ) (key : o.key = k) (found : s.get? k = some stored)
      (standing : StandsOn o stored) (differs : stored.status ≠ o.status) :
      Fate s now k (.updateStatus o)
        (some ({ stored with status := o.status }.withVersion (s.version + 1)))
  | dropped (stored : Object σ τ) (found : s.get? k = some stored)
      (bare : stored.metadata.guards = []) : Fate s now k (.delete k) none
  | marked (stored : Object σ τ) (found : s.get? k = some stored)
      (guarded : stored.metadata.guards ≠ []) (alive : stored.isDeleting = false) :
      Fate s now k (.delete k) (some (s.marked now stored))

end TokenSteward.Cluster.Store
