import TokenSteward.Secret.Record
import TokenSteward.Resource.AccessToken

/-! # Credentials for a workload

A workload gets the credential together with what is known about it, as a flat set of named texts.
Empty texts are left out.
-/

namespace TokenSteward.Secret

open TokenSteward.Json TokenSteward.Text TokenSteward.Number TokenSteward.Resource

/-- What a workload may get to know (`TokenMapping`). -/
structure Mapping where
  token : String
  name : String
  scopes : List String
  providerUrl : String
  providerUserName : String
  providerUserId : String
  userId : String
  expiredAfter : Option UInt64
deriving DecidableEq

namespace Mapping

/-- A mapping that says nothing. -/
def blank : Mapping := ⟨"", "", [], "", "", "", "", none⟩

/-- The mapping of a token's record (`default_map_token`): who holds the credential is read off the token's
status. -/
def ofRecord (owner : AccessToken) (r : Record) : Mapping :=
  let holder := owner.status.holder.getD Holder.unknown
  ⟨r.credential.exposed, owner.metadata.name, holder.scopes, owner.spec.providerUrl,
    holder.username, holder.userId, "", some r.expiry⟩

/-- All named texts of a mapping. -/
def texts (m : Mapping) : List (String × String) :=
  [("token", m.token), ("name", m.name), ("serviceProviderUrl", m.providerUrl),
    ("serviceProviderUserName", m.providerUserName),
    ("serviceProviderUserId", m.providerUserId), ("userId", m.userId),
    ("expiredAfter", (m.expiredAfter.map fun e => natText e.toNat).getD ""),
    ("scopes", joined "," m.scopes)]

/-- The named texts that are not empty (`to_secret_data`). -/
def data (m : Mapping) : Table String String :=
  Table.ofList (m.texts.filter fun t => !t.2.isEmpty)

/-- What a log shows of a mapping. -/
def describe (m : Mapping) : String :=
  recordText "TokenMapping" [("token", quoted redacted), ("name", quoted m.name),
    ("scopes", quotedList m.scopes), ("service_provider_url", quoted m.providerUrl),
    ("service_provider_user_name", quoted m.providerUserName),
    ("service_provider_user_id", quoted m.providerUserId), ("user_id", quoted m.userId),
    ("expired_after", optionText (m.expiredAfter.map fun e => natText e.toNat))]

/-- The written form of a mapping. -/
def toValue (m : Mapping) : Value :=
  .object [("token", .string m.token), ("name", .string m.name), ("scopes", .strings m.scopes),
    ("serviceProviderUrl", .string m.providerUrl),
    ("serviceProviderUserName", .string m.providerUserName),
    ("serviceProviderUserId", .string m.providerUserId), ("userId", .string m.userId),
    ("expiredAfter", (m.expiredAfter.map fun e => Value.nat e.toNat).getD .null)]

/-- Reads a mapping. -/
def reader : Reader Mapping :=
  Reader.record "struct TokenMapping" blank [
    Reader.optional "token" Reader.string fun s m => { m with token := s },
    Reader.optional "name" Reader.string fun s m => { m with name := s },
    Reader.optional "scopes" (Reader.list Reader.string) fun l m => { m with scopes := l },
    Reader.optional "serviceProviderUrl" Reader.string fun s m => { m with providerUrl := s },
    Reader.optional "serviceProviderUserName" Reader.string
      fun s m => { m with providerUserName := s },
    Reader.optional "serviceProviderUserId" Reader.string
      fun s m => { m with providerUserId := s },
    Reader.optional "userId" Reader.string fun s m => { m with userId := s },
    Reader.optional "expiredAfter" (Reader.option Reader.word64)
      fun e m => { m with expiredAfter := e }]

end Mapping

end TokenSteward.Secret
