import TokenSteward.Pass.Basic

/-! # The pass over a binding

A binding is linked to one token: the one that it is linked to already if it still exists, else one
that the provider finds, else a new one. The link is a label; the status follows the token's.
-/

namespace TokenSteward

open TokenSteward.Cluster TokenSteward.Resource TokenSteward.Provider

/-- What a pass over a binding works with (`BindingReconciler`). -/
structure BindingDesk where
  registry : Registry

namespace BindingDesk

/-- How the names of tokens begin that are made for bindings (`GENERATED_TOKEN_NAME_PREFIX`). -/
def nameBeginning : String := "generated-access-token-"

/-- The outcome of looking for a binding's token. -/
inductive Resolution where
  | linked (token : AccessToken)
  | failed (reason : BindingReason) (message : String)

/-- A new token for a binding (`create_token`). -/
def freshToken (b : Binding) (s : Service) : AccessToken :=
  AccessToken.fresh (Metadata.generated b.metadata.space nameBeginning) s.baseUrl
    b.spec.permissions

/-- The token that a binding is linked to already, if it still exists. -/
def currentToken (b : Binding) : Pass (Option AccessToken) :=
  match Binding.linkedKey? b with
  | none => pure none
  | some key => Pass.tokens (.get key)

/-- Looks for a binding's token. -/
def resolve (d : BindingDesk) (b : Binding) : Pass Resolution :=
  match d.registry.forUrl? b.spec.repoUrl with
  | none => pure (.failed .unknownServiceProvider
      (SettingsFault.unknownProvider b.spec.repoUrl).message)
  | some s => do
    match ← currentToken b with
    | some token => pure (.linked token)
    | none =>
      match ← Pass.attempt (.provider s (.lookup b)) with
      | .ok (some token) => pure (.linked token)
      | .ok none => do
        let token ← Pass.tokens (.create (freshToken b s))
        pure (.linked token)
      | .error f =>
        if f.isRefusal then pure (.failed .tokenLookupFailed f.message)
        else .fail (.provider f)

/-- The binding with its label naming a token, written if it was not so before. -/
def label (b : Binding) (name : String) : Pass Binding :=
  if Binding.linkedToken? b = some name then pure b
  else Pass.bindings (.update { b with metadata := b.metadata.setLabel linkLabel name })

/-- The pass over the binding at a key (`reconcile_binding`). -/
def pass (d : BindingDesk) (key : Key) : Pass Action := do
  match ← Pass.bindings (.get key) with
  | none => pure .await
  | some b =>
    if b.isDeleting then pure .await
    else
      let (b, status) ← match ← d.resolve b with
        | .linked token => do
          let b ← label b token.metadata.name
          pure (b, BindingStatus.linked token.metadata.name (token.status.phase == .ready))
        | .failed reason message =>
          pure (b, ⟨.error, some reason, message, b.status.linkedToken⟩)
      if status ≠ b.status then
        let _ ← Pass.bindings (.updateStatus { b with status := status })
      pure .await

/-- What a log shows of those who work on bindings. -/
def describe (d : BindingDesk) : String :=
  Text.partialRecordText "BindingReconciler" [("providers", d.registry.describe)]

end BindingDesk

end TokenSteward
