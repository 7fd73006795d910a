import TokenSteward.Resource.Object

/-! # Data updates

A data update, or trigger, announces that the secret record of a token was changed by someone else than
the operator. It has no status and is consumed once.
-/

namespace TokenSteward.Resource

open TokenSteward.Json

/-- Which token's record was changed (`AccessTokenDataUpdateSpec`). -/
structure DataUpdateSpec where
  tokenName : String
deriving DecidableEq, Repr, Inhabited

namespace DataUpdateSpec

/-- The written form of a specification. -/
def toValue (s : DataUpdateSpec) : Value := .object [("tokenName", .string s.tokenName)]

/-- Reads a specification. -/
def reader : Reader DataUpdateSpec :=
  Reader.record "struct AccessTokenDataUpdateSpec" default [
    Reader.required "tokenName" Reader.string fun n _ => ⟨n⟩]

end DataUpdateSpec

/-- A data update (`AccessTokenDataUpdate`). -/
abbrev DataUpdate := Object DataUpdateSpec Unit

namespace DataUpdate

/-- The name of this kind of object. -/
def kind : String := "AccessTokenDataUpdate"

/-- How the names of data updates begin (`DATA_UPDATE_NAME_PREFIX`). -/
def nameBeginning : String := "token-data-update-"

/-- A data update that says nothing. -/
def blank : DataUpdate := ⟨Metadata.blank, ⟨""⟩, ()⟩

/-- The announcement that a token's record was changed. -/
def forToken (token : Key) : DataUpdate :=
  ⟨Metadata.generated token.space nameBeginning, ⟨token.name⟩, ()⟩

/-- The token whose record was changed (`token_key`). -/
def token (u : DataUpdate) : Key := ⟨u.metadata.space, u.spec.tokenName⟩

/-- The written form of a data update. -/
def toValue (u : DataUpdate) : Value :=
  .object [("metadata", u.metadata.toValue), ("spec", u.spec.toValue)]

/-- Reads a data update. -/
def reader : Reader DataUpdate :=
  Reader.record "struct AccessTokenDataUpdate" blank [
    Reader.optional "metadata" Metadata.reader fun m u => { u with metadata := m },
    Reader.required "spec" DataUpdateSpec.reader fun s u => { u with spec := s }]

end DataUpdate

end TokenSteward.Resource
