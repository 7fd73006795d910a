import TokenSteward.Proofs.OAuth.Link
import TokenSteward.Proofs.Pass.Guards
import TokenSteward.Proofs.Pass.Requests
import TokenSteward.Proofs.Rest.Verdict

/-! # Passes while nothing changes

As long as neither the token at a key nor its record changes, a pass over the key can only end in two
ways: the status that the token has is the one that is implied, or the pass fails and is worth another
try. For a pass that has something to write changes the token by writing it.
-/

namespace TokenSteward

open TokenSteward.Cluster TokenSteward.Resource TokenSteward.Secret TokenSteward.Provider Pass

/-- What the status of a token depends on: the token, unless its deletion is requested, and its
record. -/
def Cluster.view (c : Cluster) (k : Key) : Option (AccessToken × Option Record) :=
  match c.tokens.get? k with
  | none => none
  | some t => if t.isDeleting then none else some (t, c.vault.get? (VaultKey.ofOwner t))

namespace Cluster.Store

variable {σ τ : Type} {s : Store σ τ} {o w : Object σ τ}

/-- A write that is answered changes what lies at its key. -/
theorem Sound.changed_of_update (sound : s.Sound) (answered : (s.update o).1 = .ok w) :
    (s.update o).2.get? o.key ≠ s.get? o.key := by
  intro same
  rcases update_cases s o with ⟨f, failed⟩ | ⟨stored, found, _, ⟨_, _, gone⟩ | ⟨_, written⟩⟩
  · rw [failed] at answered
    contradiction
  · rw [gone, get?_remove_self, found] at same
    contradiction
  · have filed : ((blended stored o).withVersion (s.version + 1)).key = o.key := rfl
    rw [written] at same
    dsimp only at same
    rw [get?_write_self s filed, found] at same
    have given := sound.given found
    rw [← Option.some.inj same] at given
    have version : ((blended stored o).withVersion (s.version + 1)).metadata.version = s.version + 1 := rfl
    omega

/-- A write of another status that is answered changes what lies at its key. -/
theorem Sound.changed_of_updateStatus [DecidableEq τ] (sound : s.Sound) {stored : Object σ τ}
    (found : s.get? o.key = some stored) (differs : stored.status ≠ o.status)
    (answered : (s.updateStatus o).1 = .ok w) :
    (s.updateStatus o).2.get? o.key ≠ s.get? o.key := by
  intro same
  obtain ⟨here, status⟩ := sound.stored_of_updateStatus answered
  rw [here, found] at same
  rw [Option.some.inj same] at status
  exact differs status

end Cluster.Store

/-- A token that is written, and that is answered, is not what lay at its key. -/
theorem Cluster.Sound.changed_of_update {c : Cluster} (sound : c.Sound) {x : Chance} {o w : AccessToken}
    (answered : (c.answer x (.tokens (.update o))).1 = .ok w) :
    (c.answer x (.tokens (.update o))).2.tokens.get? o.key ≠ c.tokens.get? o.key := by
  rcases Cluster.answer_tokens_cases c x (.update o) with ⟨f, failed⟩ | ⟨said, served⟩
  · rw [failed] at answered
    contradiction
  · rw [served]
    exact sound.tokens.changed_of_update (said.symm.trans answered)

/-- A request is not one for a validation that the provider refuses. -/
def unrefused (word : Word) : Request → Bool
  | .provider s (.validate r wanted) => match word s (.validate r wanted) with
    | .ok _ => true
    | .error f => !f.isRefusal
  | _ => true

/-- What is known while nothing changes what the status of the token at a key depends on, and no
provider refuses a validation. -/
def steady (word : Word) (k : Key) (v : Option (AccessToken × Option Record)) : Discipline Unit where
  allows _ _ := True
  leads _ r answer _ := unrefused word r = true ∧ ∃ (c : Cluster) (x : Chance), c.Sound ∧
    x.word = word ∧ c.view k = v ∧ (c.answer x r).2.view k = v ∧ answer = (c.answer x r).1

namespace TokenDesk

variable (d : TokenDesk) (word : Word)

/-- Nothing is left to do for a token: it has a guard, and its status is the one that is implied. -/
def Settled : Option (AccessToken × Option Record) → Prop
  | none => True
  | some (t, record) => isUnguarded t = false ∧ d.Implied word t record t.status

/-- How a pass ends: nothing is left to do, or it is worth another try. -/
def Promised (v : Option (AccessToken × Option Record)) : Except Failure Action → Prop
  | .ok _ => d.Settled word v
  | .error f => f.isRetryable = true ∧ ∀ t, f ≠ .cancelled t

variable {d word} {k : Key} {v : Option (AccessToken × Option Record)} {t : AccessToken}
  {record : Option Record}

theorem view_eq_some {c : Cluster} (same : c.view k = some (t, record)) :
    c.tokens.get? k = some t ∧ t.isDeleting = false ∧
      c.vault.get? (VaultKey.ofOwner t) = record := by
  unfold Cluster.view at same
  split at same
  · contradiction
  · next stored found =>
    split at same
    · contradiction
    · next alive =>
      obtain ⟨rfl, rfl⟩ := Prod.mk.inj (Option.some.inj same)
      exact ⟨found, by simpa using alive, rfl⟩

/-- While nothing changes, the token is not written. -/
theorem not_updated {o w : AccessToken} (key : o.key = k)
    (leads : (steady word k (some (t, record))).leads () (.tokens (.update o)) (.ok w) ()) : False := by
  obtain ⟨_, c, x, sound, _, before, after, said⟩ := leads
  have stored := (view_eq_some before).1
  have same := (view_eq_some after).1
  subst key
  exact sound.changed_of_update said.symm (same.trans stored.symm)

/-- While nothing changes, no other status is written. -/
theorem not_restated {o w : AccessToken} (key : o.key = k) (differs : t.status ≠ o.status)
    (leads : (steady word k (some (t, record))).leads () (.tokens (.updateStatus o)) (.ok w) ()) :
    False := by
  obtain ⟨_, c, x, sound, _, before, after, said⟩ := leads
  have stored := (view_eq_some before).1
  have same := (view_eq_some after).1
  rcases Cluster.answer_tokens_cases c x (.updateStatus o) with ⟨f, failed⟩ | ⟨answered, served⟩
  · rw [failed] at said
    contradiction
  · rw [served] at same
    subst key
    have changed := sound.tokens.changed_of_updateStatus stored differs (said.trans answered).symm
    exact changed (same.trans stored.symm)

/-- How the work on a status ends: with one that is implied, or worth another try. -/
def Concluded (d : TokenDesk) (word : Word) (t : AccessToken) (record : Option Record) :
    Except Failure TokenStatus → Prop
  | .ok status => d.Implied word t record status
  | .error f => f.isRetryable = true ∧ ∀ t, f ≠ .cancelled t

theorem leads_of_reusable {b : OAuth.LinkBuilder} {s : Service} (links : d.links = some b)
    (kept : reusable b t (linkState t s) = true) : d.Leads t s t.status.link := by
  unfold reusable at kept
  unfold Leads
  rw [links]
  split at kept
  · next published reads =>
    rw [Bool.and_eq_true] at kept
    exact ⟨published, reads, of_decide_eq_true kept.2⟩
  · simp at kept

/-- A new link says what is wanted. -/
theorem leads_link {b : OAuth.LinkBuilder} (links : d.links = some b) (s : Service) (now : Int64) :
    d.Leads t s (String.ofList (b.link ((linkState t s).dated now))) := by
  unfold Leads
  rw [links]
  refine ⟨(linkState t s).dated now, ?_, rfl⟩
  rw [String.toList_ofList]
  exact b.published?_link _

theorem concluded_awaitingStatus {s : Service} (served : d.registry.forUrl? t.spec.providerUrl = some s) :
    (d.awaitingStatus t s).Obeys (steady word k v) (fun _ => d.Concluded word t none) () := by
  unfold awaitingStatus
  split
  · next none => exact .awaiting served (by simp only [Leads, none])
  · next b links =>
    dsimp only
    split
    · next kept => exact .awaiting served (leads_of_reusable links kept)
    · refine obeys_bind.mpr (obeys_attempt.mpr ⟨trivial, fun now _ _ => ?_⟩)
      exact .awaiting served (leads_link links s now)

theorem concluded_desiredStatus :
    (d.desiredStatus t).Obeys (steady word k (some (t, record)))
      (fun _ => d.Concluded word t record) () := by
  have retryable {f : ProviderFailure} (passing : f.isRefusal = false) :
      (Failure.provider f).isRetryable = true := by
    simp [Failure.isRetryable, Failure.toClass, passing, FailureClass.isRetryable]
  unfold desiredStatus
  split
  · next nobody => exact .unserved nobody
  · next s served =>
    apply obeys_bind.mpr
    refine obeys_vault.mpr ⟨trivial, ?_⟩
    rintro found _ ⟨_, c, x, _, _, before, _, said⟩
    have stored := (view_eq_some before).2.2
    have read : found = .ok record ∨ ∃ f, found = .error f := by
      rw [said]
      simp only [Cluster.answer]
      split
      · exact .inr ⟨_, rfl⟩
      · exact .inl (congrArg Except.ok stored)
    rcases read with rfl | ⟨f, rfl⟩
    · cases record with
      | none => exact concluded_awaitingStatus served
      | some r =>
        apply obeys_bind.mpr
        refine obeys_provider.mpr ⟨trivial, ?_⟩
        rintro found _ ⟨passing, c, x, _, same, _, _, said⟩
        have said : found = word s (.validate r t.spec.permissions) := same ▸ said
        cases found with
        | error f =>
          simp only [unrefused, ← said, Bool.not_eq_true'] at passing
          exact ⟨retryable passing, fun _ => by simp⟩
        | ok validation =>
          change Obeys _ _ _ (if _ then _ else _)
          split
          · next lacks => exact .unsupported served said.symm (by simpa using lacks)
          · next valid =>
            have valid : validation.isValid = true := by simpa using valid
            apply obeys_bind.mpr
            refine obeys_attempt.mpr ⟨trivial, ?_⟩
            rintro found _ ⟨_, c, x, _, same, _, _, persisted⟩
            have persisted : found = word s (.persist t r) := same ▸ persisted
            cases found with
            | ok holder => exact .ready served said.symm valid persisted.symm
            | error f =>
              change Obeys _ _ _ (if f.isRefusal = true then _ else _)
              split
              · next refusal => exact .refused served said.symm valid persisted.symm refusal
              · next passing => exact ⟨retryable (by simpa using passing), fun _ => by simp⟩
    · exact ⟨rfl, fun _ => by simp⟩

/-- A pass that lets a token go ends well, or is worth another try. -/
theorem promised_finalize :
    (d.finalize t).Obeys (steady word k none) (fun _ => d.Promised word none) () :=
  finalize_obeys d t (fun _ => trivial) (fun _ => ⟨rfl, fun _ => by simp⟩)
    (fun _ => ⟨rfl, fun _ => by simp⟩) fun _ _ _ _ => trivial

/-- The pass over a guarded token once it has a copy of it. -/
theorem promised_work (key : t.key = k) (guarded : isUnguarded t = false) :
    (d.work t).Obeys (steady word k (some (t, record)))
      (fun _ => d.Promised word (some (t, record))) () := by
  apply obeys_bind.mpr
  apply concluded_desiredStatus.mono
  intro _ result concluded
  cases result with
  | error f => exact concluded
  | ok status =>
    change Obeys _ _ _ (if status ≠ t.status then _ else _)
    split
    · next differs =>
      refine obeys_bind.mpr (obeys_tokens.mpr ⟨trivial, fun answer _ leads => ?_⟩)
      cases answer with
      | error f => exact ⟨rfl, fun _ => by simp⟩
      | ok w =>
        exact absurd leads (not_restated (o := { t with status := status }) key (Ne.symm differs))
    · next same =>
      obtain rfl : status = t.status := by simpa using same
      exact ⟨guarded, concluded⟩

/-- A pass over a key keeps its promise while nothing changes. -/
theorem promised_pass :
    (d.pass k).Obeys (steady word k v) (fun _ => d.Promised word v) () := by
  rw [pass_eq]
  refine obeys_bind.mpr (obeys_tokens.mpr ⟨trivial, fun found _ ⟨_, c, x, sound, _, before, _, said⟩ => ?_⟩)
  have read : found = .ok (c.tokens.get? k) ∨ ∃ f, found = .error f := by
    rcases Cluster.answer_tokens_cases c x (.get k) with ⟨f, failed⟩ | ⟨answered, _⟩
    · exact .inr ⟨f, by rw [said, failed]⟩
    · exact .inl (said.trans answered)
  rcases read with rfl | ⟨f, rfl⟩
  · cases stored : c.tokens.get? k with
    | none =>
      have gone : v = none := by rw [← before, Cluster.view, stored]
      subst gone
      exact trivial
    | some t =>
      have key : t.key = k := sound.tokens.filed stored
      change Obeys _ _ _ (if t.isDeleting = true then d.finalize t else _)
      split
      · next deleting =>
        have gone : v = none := by rw [← before, Cluster.view, stored]; simp [deleting]
        subst gone
        exact promised_finalize
      · next alive =>
        have seen : v = some (t, c.vault.get? (VaultKey.ofOwner t)) := by
          rw [← before, Cluster.view, stored]
          simp [alive]
        subst seen
        split
        · refine obeys_bind.mpr (obeys_tokens.mpr ⟨trivial, fun answer _ leads => ?_⟩)
          cases answer with
          | error f => exact ⟨rfl, fun _ => by simp⟩
          | ok w => exact absurd leads (not_updated ((key_guarded t).trans key))
        · next guarded => exact promised_work key (by simpa using guarded)
  · exact ⟨rfl, fun _ => by simp⟩

end TokenDesk

end TokenSteward
