import TokenSteward.Resource.Object
import TokenSteward.Resource.Permission

/-! # Bindings

A binding is a workload's wish for a credential that opens a repository. The operator links it to
one access token, by a label that also holds the token's deletion back.
-/

namespace TokenSteward.Resource

open TokenSteward.Json

/-- How far a binding has come (`AccessTokenBindingPhase`). -/
inductive BindingPhase where
  | awaitingTokenData
  | ready
  | error
deriving DecidableEq, Repr, Inhabited

namespace BindingPhase

/-- The name of a phase. -/
def text : BindingPhase → String
  | .awaitingTokenData => "AwaitingTokenData"
  | .ready => "Ready"
  | .error => "Error"

/-- Reads a phase. -/
def reader : Reader BindingPhase :=
  Reader.names ([awaitingTokenData, ready, error].map fun p => (p.text, p))

end BindingPhase

/-- Why a binding has no token (`AccessTokenBindingErrorReason`). -/
inductive BindingReason where
  | unknownServiceProvider
  | tokenLookupFailed
deriving DecidableEq, Repr

namespace BindingReason

/-- The name of a reason. -/
def text : BindingReason → String
  | .unknownServiceProvider => "UnknownServiceProvider"
  | .tokenLookupFailed => "TokenLookupFailed"

/-- Reads a reason. -/
def reader : Reader BindingReason :=
  Reader.names ([unknownServiceProvider, tokenLookupFailed].map fun r => (r.text, r))

end BindingReason

/-- What a workload wants (`AccessTokenBindingSpec`). -/
structure BindingSpec where
  repoUrl : String
  permissions : Permissions
deriving DecidableEq, Repr, Inhabited

namespace BindingSpec

/-- The written form of a specification. -/
def toValue (s : BindingSpec) : Value :=
  .object [("repoUrl", .string s.repoUrl), ("permissions", s.permissions.toValue)]

/-- Reads a specification. -/
def reader : Reader BindingSpec :=
  Reader.record "struct AccessTokenBindingSpec" ⟨"", Permissions.none⟩ [
    Reader.optional "repoUrl" Reader.string fun u s => { s with repoUrl := u },
    Reader.optional "permissions" Permissions.reader fun p s => { s with permissions := p }]

end BindingSpec

/-- The state of a binding as the operator left it (`AccessTokenBindingStatus`), with the name of the token
that it is linked to (`linked_access_token_name`). -/
structure BindingStatus where
  phase : BindingPhase
  reason : Option BindingReason
  message : String
  linkedToken : String
deriving DecidableEq, Repr, Inhabited

namespace BindingStatus

/-- The status of a binding before anyone has looked at it. -/
def initial : BindingStatus := ⟨.awaitingTokenData, none, "", ""⟩

/-- The status of a binding linked to a token, which is ready or not. -/
def linked (token : String) (ready : Bool) : BindingStatus :=
  ⟨if ready then .ready else .awaitingTokenData, none, "", token⟩

/-- The written form of a status. -/
def toValue (s : BindingStatus) : Value :=
  .object <| [("phase", .string s.phase.text)]
    ++ valueField "errorReason" (fun r => .string r.text) s.reason
    ++ textField "errorMessage" s.message
    ++ textField "linkedAccessTokenName" s.linkedToken

/-- Reads a status. -/
def reader : Reader BindingStatus :=
  Reader.record "struct AccessTokenBindingStatus" initial [
    Reader.optional "phase" BindingPhase.reader fun p s => { s with phase := p },
    Reader.optional "errorReason" (Reader.option BindingReason.reader)
      fun r s => { s with reason := r },
    Reader.optional "errorMessage" Reader.string fun m s => { s with message := m },
    Reader.optional "linkedAccessTokenName" Reader.string fun l s => { s with linkedToken := l }]

end BindingStatus

/-- A binding (`AccessTokenBinding`). -/
abbrev Binding := Object BindingSpec BindingStatus

namespace Binding

/-- The name of this kind of object. -/
def kind : String := "AccessTokenBinding"

/-- A binding that says nothing. -/
def blank : Binding := ⟨Metadata.blank, ⟨"", Permissions.none⟩, BindingStatus.initial⟩

/-- A new binding for a repository (`new`). -/
def fresh (metadata : Metadata) (repoUrl : String) (permissions : Permissions) : Binding :=
  ⟨metadata, ⟨repoUrl, permissions⟩, BindingStatus.initial⟩

/-- The name of the token that a binding is linked to (`linked_token_name`). -/
def linkedToken? (b : Binding) : Option String :=
  (b.metadata.label? linkLabel).filter fun name => !name.isEmpty

/-- The key of the token that a binding is linked to. -/
def linkedKey? (b : Binding) : Option Key :=
  (linkedToken? b).map fun name => ⟨b.metadata.space, name⟩

/-- The written form of a binding. -/
def toValue (b : Binding) : Value := Object.toValue BindingSpec.toValue BindingStatus.toValue b

/-- Reads a binding. -/
def reader : Reader Binding :=
  Object.reader "struct AccessTokenBinding" blank BindingSpec.reader BindingStatus.reader

end Binding

end TokenSteward.Resource
