import TokenSteward.Resource.Object
import TokenSteward.Resource.Permission

/-! # Access tokens

An access token says which provider a credential is wanted for and with which permissions. Its
status says whether the credential is there and good for them.
-/

namespace TokenSteward.Resource

open TokenSteward.Json

/-- How far a token has come (`AccessTokenPhase`). -/
inductive TokenPhase where
  | awaitingData
  | ready
  | invalid
  | error
deriving DecidableEq, Repr, Inhabited

namespace TokenPhase

/-- The name of a phase. -/
def text : TokenPhase → String
  | .awaitingData => "AwaitingData"
  | .ready => "Ready"
  | .invalid => "Invalid"
  | .error => "Error"

/-- Reads a phase. -/
def reader : Reader TokenPhase :=
  Reader.names ([awaitingData, ready, invalid, error].map fun p => (p.text, p))

end TokenPhase

/-- Why a token cannot be used (`AccessTokenErrorReason`). -/
inductive TokenReason where
  | metadataFailure
  | unsupportedPermissions
  | unknownServiceProvider
deriving DecidableEq, Repr

namespace TokenReason

/-- The name of a reason. -/
def text : TokenReason → String
  | .metadataFailure => "MetadataFailure"
  | .unsupportedPermissions => "UnsupportedPermissions"
  | .unknownServiceProvider => "UnknownServiceProvider"

/-- Reads a reason. -/
def reader : Reader TokenReason :=
  Reader.names ([metadataFailure, unsupportedPermissions, unknownServiceProvider].map
    fun r => (r.text, r))

end TokenReason

/-- What a provider says about a credential (`TokenMetadata`). -/
structure Holder where
  username : String
  userId : String
  scopes : List String
  providerState : List UInt8
deriving DecidableEq, Repr

namespace Holder

/-- Nothing said. -/
def unknown : Holder := ⟨"", "", [], []⟩

instance : Inhabited Holder := ⟨unknown⟩

/-- The written form of what a provider says. -/
def toValue (h : Holder) : Value :=
  .object [("username", .string h.username), ("userId", .string h.userId),
    ("scopes", .strings h.scopes),
    ("serviceProviderState", .array (h.providerState.map fun b => .nat b.toNat))]

/-- Reads what a provider says. -/
def reader : Reader Holder :=
  Reader.record "struct TokenMetadata" unknown [
    Reader.optional "username" Reader.string fun s h => { h with username := s },
    Reader.optional "userId" Reader.string fun s h => { h with userId := s },
    Reader.optional "scopes" (Reader.list Reader.string) fun l h => { h with scopes := l },
    Reader.optional "serviceProviderState" (Reader.list Reader.word8)
      fun l h => { h with providerState := l }]

end Holder

/-- What a user wants of a token (`AccessTokenSpec`). -/
structure TokenSpec where
  providerUrl : String
  permissions : Permissions
deriving DecidableEq, Repr, Inhabited

namespace TokenSpec

/-- The written form of a specification. -/
def toValue (s : TokenSpec) : Value :=
  .object [("serviceProviderUrl", .string s.providerUrl),
    ("permissions", s.permissions.toValue)]

/-- Reads a specification. -/
def reader : Reader TokenSpec :=
  Reader.record "struct AccessTokenSpec" ⟨"", Permissions.none⟩ [
    Reader.optional "serviceProviderUrl" Reader.string fun u s => { s with providerUrl := u },
    Reader.optional "permissions" Permissions.reader fun p s => { s with permissions := p }]

end TokenSpec

/-- The state of a token as the operator found it (`AccessTokenStatus`): its phase, why it cannot be used
(`error_reason`, `error_message`), the link that brings a credential (`oauth_url`), and what the provider
says of the holder (`token_metadata`). -/
structure TokenStatus where
  phase : TokenPhase
  reason : Option TokenReason
  message : String
  link : String
  holder : Option Holder
deriving DecidableEq, Repr, Inhabited

namespace TokenStatus

/-- The status of a token whose credential is still to come, with a link to bring it (`awaiting_data`). -/
def awaiting (link : String) : TokenStatus := ⟨.awaitingData, none, "", link, none⟩

/-- The status of a token before anyone has looked at it. -/
def initial : TokenStatus := awaiting ""

/-- The status of a token whose credential is good. -/
def ready (holder : Holder) : TokenStatus := ⟨.ready, none, "", "", some holder⟩

/-- The status of a token whose credential is no good. -/
def invalid (reason : TokenReason) (message : String) : TokenStatus :=
  ⟨.invalid, some reason, message, "", none⟩

/-- The status of a token that cannot be served (`error`). -/
def failed (reason : TokenReason) (message : String) : TokenStatus :=
  ⟨.error, some reason, message, "", none⟩

/-- Whether the parts of a status fit its phase. -/
def isConsistent (s : TokenStatus) : Bool :=
  match s.phase with
  | .awaitingData => s.reason.isNone && s.holder.isNone
  | .ready => s.reason.isNone && s.holder.isSome
  | .invalid | .error => s.reason.isSome && s.holder.isNone

/-- The written form of a status. -/
def toValue (s : TokenStatus) : Value :=
  .object <| [("phase", .string s.phase.text)]
    ++ valueField "errorReason" (fun r => .string r.text) s.reason
    ++ textField "errorMessage" s.message
    ++ textField "oauthUrl" s.link
    ++ valueField "tokenMetadata" Holder.toValue s.holder

/-- Reads a status. -/
def reader : Reader TokenStatus :=
  Reader.record "struct AccessTokenStatus" initial [
    Reader.optional "phase" TokenPhase.reader fun p s => { s with phase := p },
    Reader.optional "errorReason" (Reader.option TokenReason.reader)
      fun r s => { s with reason := r },
    Reader.optional "errorMessage" Reader.string fun m s => { s with message := m },
    Reader.optional "oauthUrl" Reader.string fun l s => { s with link := l },
    Reader.optional "tokenMetadata" (Reader.option Holder.reader)
      fun h s => { s with holder := h }]

end TokenStatus

/-- An access token. -/
abbrev AccessToken := Object TokenSpec TokenStatus

namespace AccessToken

/-- The name of this kind of object. -/
def kind : String := "AccessToken"

/-- A token that says nothing. -/
def blank : AccessToken := ⟨Metadata.blank, ⟨"", Permissions.none⟩, TokenStatus.initial⟩

/-- A new token for a provider (`new`). -/
def fresh (metadata : Metadata) (providerUrl : String) (permissions : Permissions) : AccessToken :=
  ⟨metadata, ⟨providerUrl, permissions⟩, TokenStatus.initial⟩

/-- The written form of a token. -/
def toValue (t : AccessToken) : Value := Object.toValue TokenSpec.toValue TokenStatus.toValue t

/-- Reads a token. -/
def reader : Reader AccessToken :=
  Object.reader "struct AccessToken" blank TokenSpec.reader TokenStatus.reader

end AccessToken

end TokenSteward.Resource
