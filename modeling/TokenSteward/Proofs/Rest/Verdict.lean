import TokenSteward.Pass.Token
import TokenSteward.Proofs.Cluster.Chances
import TokenSteward.Proofs.Pass.Discipline

/-! # What the status of a token should be

What a token's specification, its secret record and the provider imply is told by a table: the first
row whose condition is met gives the status. Of the link that brings a credential the table tells
what it says, but not when it was issued. A pass without anybody around leaves a token alone whose
status is in the table and that has a guard.
-/

namespace TokenSteward

open TokenSteward.Cluster TokenSteward.Resource TokenSteward.Secret TokenSteward.Provider
open TokenSteward.OAuth

/-- The answers and the cluster that a pass leaves behind if nobody else asks for anything. -/
def Pass.alone {α : Type} (x : Chance) (c : Cluster) : Pass α → Except Failure α × Cluster
  | .done a => (.ok a, c)
  | .fail f => (.error f, c)
  | .ask r next => (next (c.answer x r).1).alone x (c.answer x r).2

section alone

variable {α β : Type} {c : Cluster} {word : Word}

theorem alone_bind {x : Chance} {p : Pass α} {a : α} {c' : Cluster}
    (ends : p.alone x c = (.ok a, c')) (next : α → Pass β) :
    (p >>= next).alone x c = (next a).alone x c' := by
  change (p.andThen next).alone x c = _
  induction p generalizing c with
  | done b =>
    cases ends
    rfl
  | fail f => cases ends
  | ask r rest ih => exact ih _ ends

/-- What is not written fails by no chance. -/
theorem alone_vault_get (owner : AccessToken) (next : Option Record → Pass β) :
    (Pass.vault (.get owner) >>= next).alone (.calm word) c =
      (next (c.vault.get? (VaultKey.ofOwner owner))).alone (.calm word) c :=
  rfl

theorem alone_tokens_get (k : Key) (next : Option AccessToken → Pass β) :
    (Pass.tokens (.get k) >>= next).alone (.calm word) c =
      (next (c.tokens.get? k)).alone (.calm word) c :=
  rfl

theorem alone_provider {s : Service} {r : ProviderRequest} {a : r.Result} (said : word s r = .ok a)
    (next : r.Result → Pass β) :
    (Pass.provider s r >>= next).alone (.calm word) c = (next a).alone (.calm word) c := by
  simp only [Pass.provider, Bind.bind, Pass.andThen, Pass.alone, Cluster.answer, Chance.calm, said]

theorem alone_ask_provider {s : Service} {r : ProviderRequest}
    {answer : Except ProviderFailure r.Result} (said : word s r = answer)
    (next : Except ProviderFailure r.Result → Pass β) :
    (Pass.attempt (.provider s r) >>= next).alone (.calm word) c =
      (next answer).alone (.calm word) c := by
  rw [← said]
  rfl

end alone

namespace TokenDesk

variable (d : TokenDesk) (word : Word) (t : AccessToken)

/-- A link says what is wanted of a provider for a token; without links it is empty. -/
def Leads (s : Service) (link : String) : Prop :=
  match d.links with
  | none => link = ""
  | some b => ∃ published, b.published? link.toList = some published ∧
      published.undated = linkState t s

/-- The status that a token's specification, a record and the providers imply. -/
inductive Implied : Option Record → TokenStatus → Prop where
  | unserved {record : Option Record} (nobody : d.registry.forUrl? t.spec.providerUrl = none) :
      Implied record (.failed .unknownServiceProvider
        (SettingsFault.unknownProvider t.spec.providerUrl).message)
  | awaiting {s : Service} (served : d.registry.forUrl? t.spec.providerUrl = some s) {link : String}
      (leads : d.Leads t s link) : Implied none (.awaiting link)
  | unsupported {s : Service} (served : d.registry.forUrl? t.spec.providerUrl = some s) {r : Record}
      {v : Validation} (said : word s (.validate r t.spec.permissions) = .ok v)
      (lacks : v.isValid = false) :
      Implied (some r) (.invalid .unsupportedPermissions v.message)
  | refused {s : Service} (served : d.registry.forUrl? t.spec.providerUrl = some s) {r : Record}
      {v : Validation} (said : word s (.validate r t.spec.permissions) = .ok v)
      (valid : v.isValid = true) {f : ProviderFailure} (persisted : word s (.persist t r) = .error f)
      (refusal : f.isRefusal = true) : Implied (some r) (.invalid .metadataFailure f.message)
  | ready {s : Service} (served : d.registry.forUrl? t.spec.providerUrl = some s) {r : Record}
      {v : Validation} (said : word s (.validate r t.spec.permissions) = .ok v)
      (valid : v.isValid = true) {holder : Holder} (persisted : word s (.persist t r) = .ok holder) :
      Implied (some r) (.ready holder)

variable {d word t}

/-- A link that still says what is wanted is kept. -/
theorem alone_awaitingStatus {s : Service} {link : String} (leads : d.Leads t s link)
    (same : t.status = .awaiting link) (c : Cluster) :
    (d.awaitingStatus t s).alone (.calm word) c = (.ok t.status, c) := by
  unfold Leads at leads
  unfold awaitingStatus
  split
  · next none =>
    rw [none] at leads
    rw [same, leads]
    rfl
  · next b found =>
    rw [found] at leads
    obtain ⟨published, reads, undated⟩ := leads
    have kept : reusable b t (linkState t s) = true := by
      simp [reusable, same, TokenStatus.awaiting, reads, undated]
    dsimp only
    rw [if_pos kept, same]
    rfl

/-- Whoever works out a status that is implied already comes to the same. -/
theorem alone_desiredStatus {c : Cluster}
    (implied : d.Implied word t (c.vault.get? (VaultKey.ofOwner t)) t.status) :
    (d.desiredStatus t).alone (.calm word) c = (.ok t.status, c) := by
  unfold desiredStatus
  generalize record_ : c.vault.get? (VaultKey.ofOwner t) = record at implied
  generalize status_ : t.status = status at implied
  cases implied with
  | unserved nobody =>
    simp only [nobody]
    rfl
  | awaiting served leads =>
    simp only [served]
    rw [alone_vault_get, record_, ← status_]
    exact alone_awaitingStatus leads status_ c
  | unsupported served said lacks =>
    simp only [served]
    rw [alone_vault_get, record_]
    apply (alone_provider said _).trans
    simp only [lacks, Bool.not_false, if_true]
    rfl
  | refused served said valid persisted refusal =>
    simp only [served]
    rw [alone_vault_get, record_]
    apply (alone_provider said _).trans
    simp only [valid, Bool.not_true, Bool.false_eq_true, if_false]
    apply (alone_ask_provider persisted _).trans
    simp only [refusal, if_true]
    rfl
  | ready served said valid persisted =>
    simp only [served]
    rw [alone_vault_get, record_]
    apply (alone_provider said _).trans
    simp only [valid, Bool.not_true, Bool.false_eq_true, if_false]
    exact alone_ask_provider persisted _

/-- A pass without anybody around leaves a token alone whose status is implied and that has a
guard. -/
theorem alone_pass {c : Cluster} {k : Key} (stored : c.tokens.get? k = some t)
    (alive : t.isDeleting = false) (guarded : isUnguarded t = false)
    (implied : d.Implied word t (c.vault.get? (VaultKey.ofOwner t)) t.status) :
    (d.pass k).alone (.calm word) c = (.ok .await, c) := by
  unfold pass
  rw [alone_tokens_get, stored]
  simp only [alive, guarded, Bool.false_eq_true, if_false]
  apply (alone_bind (alone_desiredStatus implied) _).trans
  simp only [ne_eq, not_true_eq_false, if_false]
  rfl

end TokenDesk

end TokenSteward
