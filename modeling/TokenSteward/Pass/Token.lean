import TokenSteward.Pass.Basic
import TokenSteward.OAuth.Link

/-! # The pass over an access token

A pass works the status of a token out anew: from its specification, its secret record and what
the provider says. A token whose deletion is requested is let go in two steps that do not wait for
each other: one guard goes when no binding is linked to it, the other when its record is gone.
-/

namespace TokenSteward

open TokenSteward.Cluster TokenSteward.Resource TokenSteward.Secret TokenSteward.Provider
open TokenSteward.OAuth

/-- What a pass over a token works with (`AccessTokenReconciler`). -/
structure TokenDesk where
  registry : Registry
  links : Option LinkBuilder
  recheck : Time.Span

namespace TokenDesk

/-- The time between two looks at a deletion, if nothing else is set
(`DEFAULT_LINKED_BINDINGS_RECHECK`). -/
def standardRecheck : Time.Span := .seconds 5

/-- The contents of the link for a token, without an issue time. -/
def linkState (token : AccessToken) (s : Service) : LinkState :=
  ⟨token.metadata.name, token.metadata.space, 0,
    ScopeSet.toList (s.requiredScopes token.spec.permissions), s.type, token.spec.providerUrl⟩

/-- The link of a token that says the same but for its issue time, if the token has one. -/
def reusable (b : LinkBuilder) (token : AccessToken) (s : LinkState) : Bool :=
  token.status.phase == .awaitingData && match b.published? token.status.link.toList with
    | some published => decide (published.undated = s)
    | none => false

/-- The status of a token without a record (`awaiting_data`). A link that still says the same is kept. -/
def awaitingStatus (d : TokenDesk) (token : AccessToken) (s : Service) : Pass TokenStatus :=
  match d.links with
  | none => pure (.awaiting "")
  | some b => do
    let state := linkState token s
    if reusable b token state then pure (.awaiting token.status.link)
    else
      let now ← Pass.attempt .clock
      pure (.awaiting (String.ofList (b.link (state.dated now))))

/-- The status that a token should have (`desired_status`). -/
def desiredStatus (d : TokenDesk) (token : AccessToken) : Pass TokenStatus :=
  match d.registry.forUrl? token.spec.providerUrl with
  | none => pure (.failed .unknownServiceProvider
      (SettingsFault.unknownProvider token.spec.providerUrl).message)
  | some s => do
    match ← Pass.vault (.get token) with
    | none => d.awaitingStatus token s
    | some r =>
      let validation ← Pass.provider s (.validate r token.spec.permissions)
      if !validation.isValid then
        pure (.invalid .unsupportedPermissions validation.message)
      else
        match ← Pass.attempt (.provider s (.persist token r)) with
        | .ok holder => pure (.ready holder)
        | .error f =>
          if f.isRefusal then pure (.invalid .metadataFailure f.message)
          else .fail (.provider f)

/-- A token with both guards, put on only if it has neither. -/
def guarded (token : AccessToken) : AccessToken :=
  { token with metadata := (token.metadata.addGuard bindingsGuard).addGuard secretGuard }

/-- Whether a token has none of the two guards. -/
def isUnguarded (token : AccessToken) : Bool :=
  !token.metadata.hasGuard bindingsGuard && !token.metadata.hasGuard secretGuard

/-- The token without a guard. -/
def released (token : AccessToken) (guard : String) : AccessToken :=
  { token with metadata := token.metadata.removeGuard guard }

/-- The bindings that are linked to a token (`linked_bindings`). -/
def linkedBindings (token : Key) : Pass (List Binding) :=
  Pass.bindings (.list (some token.space) (Selector.only linkLabel token.name))

/-- Lets a token go whose deletion is requested, as far as it can be. -/
def finalize (d : TokenDesk) (token : AccessToken) : Pass Action := do
  let held := token.metadata.hasGuard bindingsGuard
  let linked ← if held then linkedBindings token.key else pure []
  let blocked := held && !linked.isEmpty
  let first := if held && linked.isEmpty then released token bindingsGuard else token
  let kept := first.metadata.hasGuard secretGuard
  let cleanup ← if kept then Pass.attempt (.vault (.delete first)) else pure (.ok ())
  let second := match cleanup with
    | .ok () => if kept then released first secretGuard else first
    | .error _ => first
  if second.metadata.guards ≠ token.metadata.guards then
    let _ ← Pass.tokens (.update second)
  match cleanup with
  | .error f => .fail (.vault f)
  | .ok () => pure (if blocked then .requeue d.recheck else .await)

/-- The pass over the token at a key (`reconcile_token`). -/
def pass (d : TokenDesk) (key : Key) : Pass Action := do
  match ← Pass.tokens (.get key) with
  | none => pure .await
  | some token =>
    if token.isDeleting then d.finalize token
    else
      let token ← if isUnguarded token then Pass.tokens (.update (guarded token)) else pure token
      let status ← d.desiredStatus token
      if status ≠ token.status then
        let _ ← Pass.tokens (.updateStatus { token with status := status })
      pure .await

/-- What a log shows of those who work on tokens. -/
def describe (d : TokenDesk) : String :=
  Text.partialRecordText "AccessTokenReconciler" [("providers", d.registry.describe),
    ("oauth", Text.boolText d.links.isSome), ("linked_bindings_recheck", d.recheck.text)]

end TokenDesk

end TokenSteward
