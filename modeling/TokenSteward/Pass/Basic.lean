import TokenSteward.Cluster.Request

/-! # Passes

A pass (`reconcile`) is a program of requests: it ends with a result or a failure, or asks for something
and goes on with the answer. Between two requests anything may happen to the objects, and a pass that is
given up simply asks for nothing more.
-/

namespace TokenSteward

open TokenSteward.Cluster TokenSteward.Resource TokenSteward.Secret TokenSteward.Provider

/-- A program of requests. -/
inductive Pass (α : Type) : Type where
  | done (a : α)
  | fail (f : Failure)
  | ask (r : Request) (next : r.Answer → Pass α)

namespace Pass

variable {α β : Type}

/-- A pass and what follows it. A failure ends both. -/
def andThen : Pass α → (α → Pass β) → Pass β
  | .done a, next => next a
  | .fail f, _ => .fail f
  | .ask r rest, next => .ask r fun answer => (rest answer).andThen next

instance : Monad Pass where
  pure := .done
  bind := andThen

/-- A request whose failure is handled by the pass itself. -/
def attempt (r : Request) : Pass r.Answer := .ask r .done

/-- A request to the tokens' store. -/
def tokens (r : StoreRequest TokenSpec TokenStatus) : Pass r.Result :=
  .ask (.tokens r) fun
    | .ok a => .done a
    | .error f => .fail (.store f)

/-- A request to the bindings' store. -/
def bindings (r : StoreRequest BindingSpec BindingStatus) : Pass r.Result :=
  .ask (.bindings r) fun
    | .ok a => .done a
    | .error f => .fail (.store f)

/-- A request to the updates' store. -/
def updates (r : StoreRequest DataUpdateSpec Unit) : Pass r.Result :=
  .ask (.updates r) fun
    | .ok a => .done a
    | .error f => .fail (.store f)

/-- A request to the vault. -/
def vault (r : VaultRequest) : Pass r.Result :=
  .ask (.vault r) fun
    | .ok a => .done a
    | .error f => .fail (.vault f)

/-- A request to a provider. -/
def provider (s : Service) (r : ProviderRequest) : Pass r.Result :=
  .ask (.provider s r) fun
    | .ok a => .done a
    | .error f => .fail (.provider f)

end Pass

/-- What becomes of a key after a pass: it waits for a change (`await_change`), or is looked at again after
a time. -/
inductive Action where
  | await
  | requeue (delay : Time.Span)
deriving DecidableEq, Repr

end TokenSteward
