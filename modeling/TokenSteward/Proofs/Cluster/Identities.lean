import TokenSteward.Proofs.Cluster.Chances

/-! # Identities

An object keeps the uid that was drawn for it. If no uid is drawn twice, then an object whose deletion
is requested and whatever has its uid later are the same, and the deletion of that stays requested.
-/

namespace TokenSteward.Cluster.Store

open TokenSteward.Resource TokenSteward.Number

variable {σ τ : Type}

/-- A uid was given out. -/
def Issued (s : Store σ τ) (uid : String) : Prop := ∃ n, n < s.creations ∧ uid = s.draws.uid n

/-- If no uid is drawn twice, the next one is none of those that were given out. -/
theorem not_issued_nextUid {s : Store σ τ} (unique : Function.Injective s.draws.uid) :
    ¬ s.Issued s.nextUid := by
  rintro ⟨n, given, same⟩
  exact Nat.ne_of_gt given (unique same)

/-- The uids of all objects were given out. -/
def Registered (s : Store σ τ) : Prop := ∀ k o, s.get? k = some o → s.Issued o.metadata.uid

/-- A uid was given out, and the deletion of whatever has it at a key is requested. -/
def Doomed (s : Store σ τ) (k : Key) (uid : String) : Prop :=
  s.Issued uid ∧ ∀ {o}, s.get? k = some o → o.metadata.uid = uid → o.isDeleting = true

theorem Registered.doomed {s : Store σ τ} (registered : s.Registered) {k : Key} {o : Object σ τ}
    (here : s.get? k = some o) (deleting : o.isDeleting = true) : s.Doomed k o.metadata.uid := by
  refine ⟨registered k o here, fun {other} there _ => ?_⟩
  obtain rfl := Option.some.inj (here.symm.trans there)
  exact deleting

/-- A request that creates nothing draws no uid. -/
theorem counts_perform [DecidableEq τ] (s : Store σ τ) (now : Timestamp) {r : StoreRequest σ τ}
    (other : ∀ o, r ≠ .create o) : (s.perform now r).2.draws = s.draws ∧
      (s.perform now r).2.creations = s.creations := by
  cases r with
  | get k => exact ⟨rfl, rfl⟩
  | list space wanted => exact ⟨rfl, rfl⟩
  | create o => exact absurd rfl (other o)
  | update o =>
    simp only [perform]
    rcases update_cases s o with ⟨f, failed⟩ | ⟨_, _, _, ⟨_, _, gone⟩ | ⟨_, written⟩⟩
    · rw [failed]
      exact ⟨rfl, rfl⟩
    · rw [gone]
      exact ⟨rfl, rfl⟩
    · rw [written]
      exact ⟨rfl, rfl⟩
  | updateStatus o =>
    simp only [perform]
    rcases updateStatus_cases s o with ⟨f, failed⟩ | ⟨_, _, _, ⟨_, same⟩ | ⟨_, written⟩⟩
    · rw [failed]
      exact ⟨rfl, rfl⟩
    · rw [same]
      exact ⟨rfl, rfl⟩
    · rw [written]
      exact ⟨rfl, rfl⟩
  | delete k =>
    simp only [perform]
    rcases delete_cases s now k with ⟨f, failed⟩ | ⟨_, _, ⟨_, gone⟩ | ⟨_, ⟨_, same⟩ | ⟨_, written⟩⟩⟩
    · rw [failed]
      exact ⟨rfl, rfl⟩
    · rw [gone]
      exact ⟨rfl, rfl⟩
    · rw [same]
      exact ⟨rfl, rfl⟩
    · rw [written]
      exact ⟨rfl, rfl⟩

/-- The numbers of created objects only grow, and by each creation. -/
theorem creations_perform [DecidableEq τ] (s : Store σ τ) (now : Timestamp) (r : StoreRequest σ τ) :
    (s.perform now r).2.draws = s.draws ∧ s.creations ≤ (s.perform now r).2.creations ∧
      ((s.perform now r).2 = s ∨ (s.perform now r).2.creations = s.creations + 1 ∨
        ∀ o, r ≠ .create o) := by
  by_cases creates : ∃ o, r = .create o
  · obtain ⟨o, rfl⟩ := creates
    simp only [perform, create]
    split
    · exact ⟨rfl, Nat.le_refl _, .inl rfl⟩
    · split
      · exact ⟨rfl, Nat.le_refl _, .inl rfl⟩
      · split
        · exact ⟨rfl, Nat.le_refl _, .inl rfl⟩
        · exact ⟨rfl, Nat.le_succ _, .inr (.inl rfl)⟩
  · have other : ∀ o, r ≠ .create o := fun o same => creates ⟨o, same⟩
    obtain ⟨draws, count⟩ := s.counts_perform now other
    exact ⟨draws, Nat.le_of_eq count.symm, .inr (.inr other)⟩

variable [DecidableEq τ] {s : Store σ τ}

theorem Issued.perform {uid : String} (issued : s.Issued uid) (now : Timestamp)
    (r : StoreRequest σ τ) : (s.perform now r).2.Issued uid := by
  obtain ⟨n, given, same⟩ := issued
  obtain ⟨draws, more, _⟩ := s.creations_perform now r
  exact ⟨n, Nat.lt_of_lt_of_le given more, by rw [draws]; exact same⟩

/-- What lies at a key after a request has the uid that lay there before, and its deletion stays
requested, or it was created with the next uid. -/
theorem Sound.heir (sound : s.Sound) (now : Timestamp) (r : StoreRequest σ τ) {k : Key}
    {o : Object σ τ} (here : (s.perform now r).2.get? k = some o) :
    (∃ old, s.get? k = some old ∧ o.metadata.uid = old.metadata.uid ∧
        (old.isDeleting = true → o.isDeleting = true)) ∨
      (o.metadata.uid = s.nextUid ∧ (s.perform now r).2.creations = s.creations + 1) := by
  have fate := sound.fate now k r
  rw [here] at fate
  generalize found : some o = result at fate
  cases fate with
  | same r => exact .inl ⟨o, found.symm, rfl, fun deleting => deleting⟩
  | created made name absent =>
    obtain rfl := Option.some.inj found
    refine .inr ⟨rfl, ?_⟩
    obtain ⟨_, _, same | counted | other⟩ := s.creations_perform now (.create made)
    · rw [same, absent] at here
      contradiction
    · exact counted
    · exact absurd rfl (other made)
  | updated incoming stored _ before _ _ =>
    obtain rfl := Option.some.inj found
    exact .inl ⟨stored, before, rfl, fun deleting => deleting⟩
  | ended => contradiction
  | restated incoming stored _ before _ _ =>
    obtain rfl := Option.some.inj found
    exact .inl ⟨stored, before, rfl, fun deleting => deleting⟩
  | dropped => contradiction
  | marked stored before _ _ =>
    obtain rfl := Option.some.inj found
    exact .inl ⟨stored, before, rfl, fun _ => rfl⟩

theorem Registered.perform (registered : s.Registered) (sound : s.Sound) (now : Timestamp)
    (r : StoreRequest σ τ) : (s.perform now r).2.Registered := by
  intro k o here
  rcases sound.heir now r here with ⟨old, before, uid, _⟩ | ⟨uid, counted⟩
  · rw [uid]
    exact (registered k old before).perform now r
  · obtain ⟨draws, _, _⟩ := s.creations_perform now r
    exact ⟨s.creations, counted ▸ Nat.lt_succ_self _, by rw [uid, draws]; rfl⟩

theorem Doomed.perform {k : Key} {uid : String} (doomed : s.Doomed k uid) (sound : s.Sound)
    (unique : Function.Injective s.draws.uid) (now : Timestamp) (r : StoreRequest σ τ) :
    (s.perform now r).2.Doomed k uid := by
  refine ⟨doomed.1.perform now r, fun {o} here same => ?_⟩
  rcases sound.heir now r here with ⟨old, before, uid, kept⟩ | ⟨uid, _⟩
  · exact kept (doomed.2 before (uid ▸ same))
  · exact absurd doomed.1 (by rw [← same, uid]; exact not_issued_nextUid unique)

end TokenSteward.Cluster.Store

namespace TokenSteward.Cluster

open TokenSteward.Resource

variable {c : Cluster}

/-- The stores stay sound, and the uids of tokens registered. -/
structure Kept (c : Cluster) : Prop where
  sound : c.Sound
  registered : c.tokens.Registered

theorem Kept.answer (kept : c.Kept) (x : Chance) (r : Request) : (c.answer x r).2.Kept := by
  refine ⟨kept.sound.answer x r, ?_⟩
  by_cases tokens : ∃ s, r = .tokens s
  · obtain ⟨s, rfl⟩ := tokens
    rcases Cluster.answer_tokens_cases c x s with ⟨f, failed⟩ | ⟨_, served⟩
    · rw [failed]
      exact kept.registered
    · rw [served]
      exact kept.registered.perform kept.sound.tokens _ _
  · rw [tokens_answer c x r fun s same => tokens ⟨s, same⟩]
    exact kept.registered

/-- What a cluster draws stays up to the same numbers. -/
theorem draws_answer (c : Cluster) (x : Chance) (r : Request) :
    (c.answer x r).2.tokens.draws = c.tokens.draws := by
  by_cases tokens : ∃ s, r = .tokens s
  · obtain ⟨s, rfl⟩ := tokens
    rcases Cluster.answer_tokens_cases c x s with ⟨f, failed⟩ | ⟨_, served⟩
    · rw [failed]
    · rw [served]
      exact (c.tokens.creations_perform _ s).1
  · rw [tokens_answer c x r fun s same => tokens ⟨s, same⟩]

theorem Later.draws {c' : Cluster} (later : c.Later c') : c'.tokens.draws = c.tokens.draws := by
  induction later with
  | now => rfl
  | answer _ x r ih => exact (draws_answer _ x r).trans ih
  | clock _ _ ih => exact ih

theorem kept_empty (outset : Cluster.Outset) : (empty outset).Kept :=
  ⟨sound_empty outset, fun _ _ found => nomatch found⟩

theorem Kept.later {c' : Cluster} (kept : c.Kept) (later : c.Later c') : c'.Kept := by
  induction later with
  | now => exact kept
  | answer _ x r ih => exact ih.answer x r
  | clock _ _ ih => exact ⟨⟨ih.sound.tokens, ih.sound.bindings, ih.sound.updates⟩, ih.registered⟩

end TokenSteward.Cluster
