import TokenSteward.Cluster.Store
import TokenSteward.Provider.Registry
import TokenSteward.Provider.Validation
import TokenSteward.Resource.Binding
import TokenSteward.Resource.DataUpdate
import TokenSteward.Time.Span

/-! # What a pass may ask for

A pass over an object works by asking others: the stores (`ObjectStore`), the vault (`TokenStorage`), the
providers (`ServiceProvider`), a queue (`WorkQueue`), the clock. Each request fixes the type of its
answer, and an answer may be a failure.
-/

namespace TokenSteward.Cluster

open TokenSteward.Resource TokenSteward.Provider TokenSteward.Secret

/-- What can be asked of the store of a kind of object (`ObjectStore`). -/
inductive StoreRequest (σ τ : Type) where
  | get (k : Key)
  | list (space : Option String) (wanted : Selector)
  | create (o : Object σ τ)
  | update (o : Object σ τ)
  | updateStatus (o : Object σ τ)
  | delete (k : Key)

/-- What a store answers if all goes well. -/
abbrev StoreRequest.Result {σ τ : Type} : StoreRequest σ τ → Type
  | .get _ => Option (Object σ τ)
  | .list _ _ => List (Object σ τ)
  | .create _ | .update _ | .updateStatus _ => Object σ τ
  | .delete _ => Unit

/-- What can be asked of the vault about the record that belongs to a token (`TokenStorage`). The vault
is given the whole token, as the writer has it. -/
inductive VaultRequest where
  | store (owner : AccessToken) (r : Record)
  | get (owner : AccessToken)
  | delete (owner : AccessToken)

/-- What the vault answers if all goes well. -/
abbrev VaultRequest.Result : VaultRequest → Type
  | .store _ _ => Unit
  | .get _ => Option Record
  | .delete _ => Unit

/-- What can be asked of a provider (`validate`, `lookup_token`, `persist_metadata`). -/
inductive ProviderRequest where
  | validate (r : Record) (wanted : Permissions)
  | lookup (b : Binding)
  | persist (owner : AccessToken) (r : Record)

/-- What a provider answers if all goes well. -/
abbrev ProviderRequest.Result : ProviderRequest → Type
  | .validate _ _ => Validation
  | .lookup _ => Option AccessToken
  | .persist _ _ => Holder

/-- What a pass may ask for. Queues are known by a number. -/
inductive Request where
  | tokens (r : StoreRequest TokenSpec TokenStatus)
  | bindings (r : StoreRequest BindingSpec BindingStatus)
  | updates (r : StoreRequest DataUpdateSpec Unit)
  | vault (r : VaultRequest)
  | provider (s : Service) (r : ProviderRequest)
  | enqueue (queue : Nat) (k : Key)
  | clock
  | pause (span : Time.Span)

/-- What is answered to a request. The clock answers with seconds since 1970. -/
abbrev Request.Answer : Request → Type
  | .tokens r => Except StoreFailure r.Result
  | .bindings r => Except StoreFailure r.Result
  | .updates r => Except StoreFailure r.Result
  | .vault r => Except VaultFailure r.Result
  | .provider _ r => Except ProviderFailure r.Result
  | .enqueue _ _ => Unit
  | .clock => Int64
  | .pause _ => Unit

/-- Carries out a request to a store. -/
def Store.perform {σ τ : Type} [DecidableEq τ] (s : Store σ τ) (now : Timestamp) :
    (r : StoreRequest σ τ) → Except StoreFailure r.Result × Store σ τ
  | .get k => (.ok (s.get? k), s)
  | .list space wanted => (.ok (s.list space wanted), s)
  | .create o => s.create now o
  | .update o => s.update o
  | .updateStatus o => s.updateStatus o
  | .delete k => s.delete now k

/-- Carries out a request to the vault. -/
def performVault (v : Vault) : (r : VaultRequest) → Except VaultFailure r.Result × Vault
  | .store owner r => (.ok (), v.insert (VaultKey.ofOwner owner) r)
  | .get owner => (.ok (v.get? (VaultKey.ofOwner owner)), v)
  | .delete owner => (.ok (), v.erase (VaultKey.ofOwner owner))

end TokenSteward.Cluster
