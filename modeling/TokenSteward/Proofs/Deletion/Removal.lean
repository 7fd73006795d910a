import TokenSteward.Proofs.Cluster.Listing
import TokenSteward.Proofs.Deletion.Release

/-! # What is left when a token is removed

Since the guards come off only after a pass was shown that they are without need, a token is removed
only after its record was deleted, and after none of the bindings was linked to it. Neither store is
locked between that and the removal. A record that is there in the end was stored by someone outside
after the deletion of the record, and a binding that is linked in the end was linked after the
bindings were listed; both can happen.
-/

namespace TokenSteward

open TokenSteward.Cluster TokenSteward.Resource TokenSteward.Secret

/-- A stored binding lies in the namespace of a token and names it by its link label. -/
def Cluster.Links (c : Cluster) (binding token : Key) : Prop :=
  ∃ b ∈ c.bindings.get? binding, b.metadata.space = token.space ∧
    b.metadata.label? linkLabel = some token.name

instance (c : Cluster) (binding token : Key) : Decidable (c.Links binding token) :=
  inferInstanceAs (Decidable (∃ b ∈ _, _ ∧ _))

namespace Traffic

variable {outset : Cluster.Outset} {moves : List Move} {m : Move} {k : Key} {t : AccessToken}

theorem Shows.gone {s : Traffic} {i : Nat} {x : Chance} (shows : Shows t s i x secretGuard) :
    (s.after (.answered i x)).cluster.vault.get? (VaultKey.ofOwner t) = none := by
  generalize same : secretGuard = guard at shows
  cases shows with
  | unlinked _ _ _ => exact absurd same (by decide)
  | deleted asks served owner =>
    simp only [after, asks, Cluster.answer, served, performVault, ← owner]
    exact Table.get?_erase_self _ _

theorem Shows.notLinked {s : Traffic} {i : Nat} {x : Chance} (shows : Shows t s i x bindingsGuard)
    (binding : Key) : ¬ s.cluster.Links binding t.key := by
  generalize same : bindingsGuard = guard at shows
  cases shows with
  | deleted _ _ _ => exact absurd same (by decide)
  | unlinked asks served empty =>
    rintro ⟨b, stored, space, label⟩
    have listed : b ∈ s.cluster.bindings.list (some t.key.space) (Selector.only linkLabel t.key.name) :=
      Store.mem_list.mpr ⟨⟨binding, stored⟩, fun name same => space.trans (Option.some.inj same),
        selects_only.mpr label⟩
    rw [empty] at listed
    contradiction

/-- A record that is gone stays away until someone outside stores one. -/
theorem gone_since {owner : VaultKey} {before later : List Move}
    (gone : (run outset before).cluster.vault.get? owner = none)
    (nobody : ∀ o r, .outside (.vault (.store o r)) ∈ later → VaultKey.ofOwner o ≠ owner) :
    (run outset (before ++ later)).cluster.vault.get? owner = none := by
  induction later using List.reverseRecOn with
  | nil => rwa [List.append_nil]
  | append_singleton later m ih =>
    have still := ih fun o r stored => nobody o r (List.mem_append_left _ stored)
    rw [← List.append_assoc, run_snoc]
    rcases (run outset (before ++ later)).after_cases m with ⟨clock, same⟩ | ⟨x, r, serves, served⟩
    · rw [same]
      exact still
    · rw [served]
      cases r with
      | vault r =>
        simp only [Cluster.answer]
        split
        · exact still
        · cases r with
          | get owner => exact still
          | delete other =>
            simp only [performVault, Table.get?_erase]
            split
            · exact still
            · rfl
          | store other r =>
            cases serves with
            | answered asks =>
              obtain ⟨told, _, allows, _⟩ := obeys_letGo outset _ asks
              contradiction
            | outside =>
              simp only [performVault]
              rw [Table.get?_insert_of_ne _ _ (nobody other r (by simp))]
              exact still
      | _ => rw [Cluster.vault_answer _ _ _ (by simp)]; exact still

/-- What becomes true in a run becomes true by one of its moves. -/
theorem exists_move_of_turn (holds : Cluster → Prop) {before later : List Move}
    (first : ¬ holds (run outset before).cluster) (last : holds (run outset (before ++ later)).cluster) :
    ∃ early w late, later = early ++ w :: late ∧ ¬ holds (run outset (before ++ early)).cluster ∧
      holds (run outset (before ++ early ++ [w])).cluster := by
  induction later using List.reverseRecOn with
  | nil => exact absurd (List.append_nil before ▸ last) first
  | append_singleton later w ih =>
    by_cases turned : holds (run outset (before ++ later)).cluster
    · obtain ⟨early, v, late, rfl, was, turns⟩ := ih turned
      exact ⟨early, v, late ++ [w], by simp, was, turns⟩
    · exact ⟨later, w, [], rfl, turned, by rwa [← List.append_assoc] at last⟩

theorem Lifting.split_since {guard : String} {owner : VaultKey} (l : Lifting outset guard k owner moves) :
    moves = l.before ++ [.answered l.pass l.shown] ++ l.since := by
  simpa [Lifting.since] using l.split

/-- When a token is removed that carried the guard for its record when its deletion was requested,
then a pass has deleted the record after that request, and lifted the guard afterwards. The record
is gone in the end unless someone outside has stored one since it was deleted. -/
theorem record_gone_at_removal (stored : (run outset moves).cluster.tokens.get? k = some t)
    (removed : (run outset (moves ++ [m])).cluster.tokens.get? k = none)
    (carried : Always outset (Carries secretGuard k (VaultKey.ofOwner t)) (moves ++ [m]))
    (left : Always outset (Leaves secretGuard k (VaultKey.ofOwner t)) (moves ++ [m])) :
    ∃ l : Lifting outset secretGuard k (VaultKey.ofOwner t) (moves ++ [m]),
      (∀ o r, .outside (.vault (.store o r)) ∈ l.since →
        VaultKey.ofOwner o ≠ VaultKey.ofOwner t) →
      (run outset (moves ++ [m])).cluster.vault.get? (VaultKey.ofOwner t) = none := by
  obtain ⟨l⟩ := lifting_of_removed carried left stored rfl removed
  refine ⟨l, ?_⟩
  intro nobody
  have deleted : (run outset (l.before ++ [.answered l.pass l.shown])).cluster.vault.get?
      (VaultKey.ofOwner t) = none := by
    have gone := l.shows.gone
    rwa [l.owned, ← run_snoc] at gone
  have gone := gone_since deleted nobody
  rwa [← l.split_since] at gone

/-- When a token is removed that carried the guard for bindings when its deletion was requested,
then a pass has listed no binding linked to it after that request, and lifted the guard afterwards.
A binding that is linked to it in the end became so after the listing. -/
theorem linked_since_listing (stored : (run outset moves).cluster.tokens.get? k = some t)
    (removed : (run outset (moves ++ [m])).cluster.tokens.get? k = none)
    (carried : Always outset (Carries bindingsGuard k (VaultKey.ofOwner t)) (moves ++ [m]))
    (left : Always outset (Leaves bindingsGuard k (VaultKey.ofOwner t)) (moves ++ [m])) :
    ∃ l : Lifting outset bindingsGuard k (VaultKey.ofOwner t) (moves ++ [m]), ∀ binding,
      ¬ (run outset l.before).cluster.Links binding k ∧
      ((run outset (moves ++ [m])).cluster.Links binding k →
        ∃ early w late, .answered l.pass l.shown :: l.since = early ++ w :: late ∧
          ¬ (run outset (l.before ++ early)).cluster.Links binding k ∧
          (run outset (l.before ++ early ++ [w])).cluster.Links binding k) := by
  obtain ⟨l⟩ := lifting_of_removed carried left stored rfl removed
  refine ⟨l, ?_⟩
  intro binding
  have free : ¬ (run outset l.before).cluster.Links binding k := by
    have free := l.shows.notLinked binding
    rwa [l.key] at free
  refine ⟨free, ?_⟩
  intro linked
  refine exists_move_of_turn (fun c => c.Links binding k) free ?_
  rw [l.split_since] at linked
  simpa using linked

/-! ## Runs in which something is left -/

/-- A token with both guards. -/
def guardedToken : AccessToken :=
  .fresh { Metadata.named "dev" "git" with guards := [bindingsGuard, secretGuard] } "" Permissions.none

/-- A binding linked to that token. -/
def linkedBinding : Binding :=
  .fresh ((Metadata.named "dev" "ci").setLabel linkLabel "git") "" Permissions.none

/-- The owner of that token's record, once it is stored. -/
def guardedOwner : AccessToken := { guardedToken with metadata.uid := "<uid:t1>" }

/-- A pass over that token. -/
def guardedErrand : Errand := .token ⟨[], none, TokenDesk.standardRecheck⟩ guardedToken.key

/-- The first pass finds a linked binding and deletes the record; someone outside stores another
before the binding is gone and a second pass comes. -/
def lateRecord : List Move :=
  [.outside (.tokens (.create guardedToken)), .outside (.bindings (.create linkedBinding)),
    .outside (.tokens (.delete guardedToken.key)), .begins guardedErrand, .answered 0 .quiet,
    .answered 0 .quiet, .answered 0 .quiet, .answered 0 .quiet,
    .outside (.vault (.store guardedOwner .blank)), .outside (.bindings (.delete linkedBinding.key)),
    .begins guardedErrand, .answered 1 .quiet, .answered 1 .quiet]

/-- A binding is linked while the pass that has listed none deletes the record. -/
def lateLink : List Move :=
  [.outside (.tokens (.create guardedToken)), .outside (.tokens (.delete guardedToken.key)),
    .begins guardedErrand, .answered 0 .quiet, .answered 0 .quiet,
    .outside (.bindings (.create linkedBinding)), .answered 0 .quiet]

/-- The owner of the record that someone outside stores or deletes by a move. -/
def recordOwner? : Move → Option AccessToken
  | .outside (.vault (.store owner _)) | .outside (.vault (.delete owner)) => some owner
  | _ => none

/-- Records are stored and deleted from outside only for tokens that are stored. -/
def ForStored (s : Traffic) (m : Move) : Prop :=
  ∀ owner ∈ recordOwner? m, ∃ t ∈ s.cluster.tokens.get? owner.key,
    VaultKey.ofOwner t = VaultKey.ofOwner owner

instance (s : Traffic) (m : Move) : Decidable (ForStored s m) :=
  inferInstanceAs (Decidable (∀ owner ∈ _, ∃ t ∈ _, _))

/-- A record can be left when a guarded token is removed. -/
theorem exists_record_at_removal :
    ¬ ∀ (outset : Cluster.Outset) (moves : List Move) (m : Move) (k : Key) (t : AccessToken),
      Always outset ForStored (moves ++ [m]) →
      (run outset moves).cluster.tokens.get? k = some t →
      (run outset (moves ++ [m])).cluster.tokens.get? k = none →
      Always outset (Carries secretGuard k (VaultKey.ofOwner t)) (moves ++ [m]) →
      Always outset (Leaves secretGuard k (VaultKey.ofOwner t)) (moves ++ [m]) →
      (run outset (moves ++ [m])).cluster.vault.get? (VaultKey.ofOwner t) = none := by
  intro always
  obtain ⟨t, stored, owner⟩ : ∃ t ∈ (run (.serial 0) lateRecord).cluster.tokens.get? guardedToken.key,
      VaultKey.ofOwner t = VaultKey.ofOwner guardedOwner := by decide +kernel
  have gone := always (.serial 0) lateRecord (.answered 1 .quiet) guardedToken.key t (by decide +kernel) stored
    (by decide)
  rw [owner] at gone
  exact absurd (gone (by decide +kernel) (by decide +kernel)) (by decide +kernel)

/-- What came before the deletion of the token was requested came before its guard was lifted. -/
theorem Lifting.since_subset {guard : String} {owner : VaultKey} (l : Lifting outset guard k owner moves)
    {n : Nat} (alive : ∀ early < n, ∀ t ∈ (run outset (moves.take early)).cluster.tokens.get? k,
      t.isDeleting = false) : l.since ⊆ moves.drop n := by
  have split : moves = l.before ++ ([.answered l.pass l.shown] ++ l.since) := by
    rw [← List.append_assoc]
    exact l.split_since
  have later : n ≤ l.before.length := by
    by_contra early
    have start : moves.take l.before.length = l.before :=
      (congrArg (List.take _) split).trans List.take_left
    have stored : l.token ∈ (run outset (moves.take l.before.length)).cluster.tokens.get? k := by
      rw [start]
      exact l.stored
    have deleting := l.deleting
    rw [alive _ (Nat.not_le.mp early) _ stored] at deleting
    contradiction
  have rest : moves.drop n = l.before.drop n ++ ([.answered l.pass l.shown] ++ l.since) :=
    (congrArg (List.drop n) split).trans (List.drop_append_of_le_length later)
  rw [rest]
  intro m here
  exact List.mem_append_right _ (List.mem_append_right _ here)

/-- A record is stored, and a pass deletes it once the deletion of its token is requested. -/
def earlyRecord : List Move :=
  [.outside (.tokens (.create guardedToken)), .outside (.vault (.store guardedOwner .blank)),
    .outside (.tokens (.delete guardedToken.key)), .begins guardedErrand, .answered 0 .quiet,
    .answered 0 .quiet, .answered 0 .quiet]

/-- Whether a move stores no record from outside. -/
def storesNone : Move → Bool
  | .outside (.vault (.store _ _)) => false
  | _ => true

/-- In the one run a record may be left, since it is stored after the guard was lifted; in the other one
it is gone. -/
theorem record_gone_at_removal_example :
    (∃ t ∈ (run (.serial 0) lateRecord).cluster.tokens.get? guardedToken.key,
      ∃ l : Lifting (.serial 0) secretGuard guardedToken.key (VaultKey.ofOwner t)
          (lateRecord ++ [.answered 1 .quiet]),
        (∀ o r, .outside (.vault (.store o r)) ∈ l.since →
          VaultKey.ofOwner o ≠ VaultKey.ofOwner t) →
        (run (.serial 0) (lateRecord ++ [.answered 1 .quiet])).cluster.vault.get?
          (VaultKey.ofOwner t) = none) ∧
    ∃ t ∈ (run (.serial 0) earlyRecord).cluster.tokens.get? guardedToken.key,
      (run (.serial 0) (earlyRecord.take 3)).cluster.vault.get? (VaultKey.ofOwner t) = some .blank ∧
      (run (.serial 0) (earlyRecord ++ [.answered 0 .quiet])).cluster.vault.get?
        (VaultKey.ofOwner t) = none := by
  constructor
  · obtain ⟨t, stored, owner⟩ : ∃ t ∈ (run (.serial 0) lateRecord).cluster.tokens.get? guardedToken.key,
        VaultKey.ofOwner t = VaultKey.ofOwner guardedOwner := by decide +kernel
    exact ⟨t, stored, record_gone_at_removal stored (by decide) (by rw [owner]; decide +kernel)
      (by rw [owner]; decide +kernel)⟩
  · obtain ⟨t, stored, owner⟩ : ∃ t ∈ (run (.serial 0) earlyRecord).cluster.tokens.get? guardedToken.key,
        VaultKey.ofOwner t = VaultKey.ofOwner guardedOwner := by decide +kernel
    obtain ⟨l, gone⟩ := record_gone_at_removal (m := .answered 0 .quiet) stored (by decide)
      (by rw [owner]; decide +kernel) (by rw [owner]; decide +kernel)
    refine ⟨t, stored, by rw [owner]; decide +kernel, gone fun o r here => ?_⟩
    have silent : ∀ m ∈ (earlyRecord ++ [Move.answered 0 .quiet]).drop 3, storesNone m = true := by
      decide +kernel
    have late := l.since_subset (n := 3) (by decide +kernel) here
    have stores := silent _ late
    contradiction

/-- A linked binding can be left when a guarded token is removed. -/
theorem exists_linked_at_removal :
    ¬ ∀ (outset : Cluster.Outset) (moves : List Move) (m : Move) (k : Key) (t : AccessToken),
      (run outset moves).cluster.tokens.get? k = some t →
      (run outset (moves ++ [m])).cluster.tokens.get? k = none →
      Always outset (Carries bindingsGuard k (VaultKey.ofOwner t)) (moves ++ [m]) →
      Always outset (Leaves bindingsGuard k (VaultKey.ofOwner t)) (moves ++ [m]) →
      ∀ binding, ¬ (run outset (moves ++ [m])).cluster.Links binding k := by
  intro always
  obtain ⟨t, stored, owner⟩ : ∃ t ∈ (run (.serial 0) lateLink).cluster.tokens.get? guardedToken.key,
      VaultKey.ofOwner t = VaultKey.ofOwner guardedOwner := by decide +kernel
  have free := always (.serial 0) lateLink (.answered 0 .quiet) guardedToken.key t stored (by decide)
  rw [owner] at free
  exact absurd (by decide) (free (by decide +kernel) (by decide +kernel) linkedBinding.key)

theorem linked_since_listing_example :
    ∃ t ∈ (run (.serial 0) lateLink).cluster.tokens.get? guardedToken.key,
      ∃ l : Lifting (.serial 0) bindingsGuard guardedToken.key (VaultKey.ofOwner t)
          (lateLink ++ [.answered 0 .quiet]), ∀ binding,
        ¬ (run (.serial 0) l.before).cluster.Links binding guardedToken.key ∧
        ((run (.serial 0) (lateLink ++ [.answered 0 .quiet])).cluster.Links binding guardedToken.key →
          ∃ early w late, .answered l.pass l.shown :: l.since = early ++ w :: late ∧
            ¬ (run (.serial 0) (l.before ++ early)).cluster.Links binding guardedToken.key ∧
            (run (.serial 0) (l.before ++ early ++ [w])).cluster.Links binding guardedToken.key) := by
  obtain ⟨t, stored, owner⟩ : ∃ t ∈ (run (.serial 0) lateLink).cluster.tokens.get? guardedToken.key,
      VaultKey.ofOwner t = VaultKey.ofOwner guardedOwner := by decide +kernel
  exact ⟨t, stored, linked_since_listing stored (by decide) (by rw [owner]; decide +kernel)
    (by rw [owner]; decide +kernel)⟩

end Traffic

end TokenSteward
