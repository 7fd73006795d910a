import TokenSteward.Cluster.Basic

/-! # How stand-ins behave

A stand-in for a provider answers what it is told to answer, and its calls are kept.
-/

namespace TokenSteward.Rehearsal

open TokenSteward.Cluster TokenSteward.Resource TokenSteward.Provider TokenSteward.Secret

/-- What a stand-in says of a credential: what is wrong with it, or a failure. -/
inductive Verdict where
  | findings (errors : List String)
  | fail (f : ProviderFailure)

/-- What a stand-in finds for a binding: nothing, the stored token at a key, a token of its own, or
a failure. -/
inductive Find where
  | nothing
  | stored (k : Key)
  | own (t : AccessToken)
  | fail (f : ProviderFailure)

/-- What a stand-in tells of the holder of a credential: the name in the record, a holder of its
own, or a failure. -/
inductive Telling where
  | username
  | own (h : Holder)
  | fail (f : ProviderFailure)

/-- How a stand-in behaves. -/
structure Behaviour where
  verdict : Verdict
  find : Find
  telling : Telling

/-- A stand-in that was told nothing: each credential is good, no token is found, and the name is
the one in the record. -/
def Behaviour.plain : Behaviour := ⟨.findings [], .nothing, .username⟩

/-- A call to a stand-in. -/
inductive Call where
  | validate (type : ProviderType) (r : Record) (wanted : Permissions)
  | lookup (type : ProviderType) (binding : Key)
  | persist (type : ProviderType) (owner : Key) (r : Record)

/-- The call that a request makes. -/
def Call.ofRequest (type : ProviderType) : ProviderRequest → Call
  | .validate r wanted => .validate type r wanted
  | .lookup b => .lookup type b.key
  | .persist owner r => .persist type owner.key r

namespace Behaviour

/-- The answer to a request. -/
def answer (b : Behaviour) (c : Cluster) : (r : ProviderRequest) → Except ProviderFailure r.Result
  | .validate _ _ =>
    match b.verdict with
    | .findings errors => .ok ⟨errors⟩
    | .fail f => .error f
  | .lookup _ =>
    match b.find with
    | .nothing => .ok none
    | .stored k => .ok (c.tokens.get? k)
    | .own t => .ok (some t)
    | .fail f => .error f
  | .persist _ r =>
    match b.telling with
    | .username => .ok { Holder.unknown with username := r.username }
    | .own h => .ok h
    | .fail f => .error f

end Behaviour

end TokenSteward.Rehearsal
