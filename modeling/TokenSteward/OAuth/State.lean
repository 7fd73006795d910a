import TokenSteward.OAuth.Signing
import TokenSteward.Provider.Identifier

/-! # What a link says

A link that brings a credential carries which token it is for, which scopes are needed and of which
provider, and when it was issued. It names no user: whoever follows it brings that in.
-/

namespace TokenSteward.OAuth

open TokenSteward.Json TokenSteward.Provider

/-- The contents of a link (`AnonymousOAuthState`). An issue time of zero stands for none. -/
structure LinkState where
  tokenName : String
  tokenSpace : String
  issuedAt : Int64
  scopes : List String
  providerType : ProviderType
  providerUrl : String
deriving DecidableEq

namespace LinkState

/-- Contents to start reading from. -/
def blank : LinkState := ⟨"", "", 0, [], default, ""⟩

/-- The contents without their issue time. -/
def undated (s : LinkState) : LinkState := { s with issuedAt := 0 }

/-- The contents with an issue time. -/
def dated (s : LinkState) (seconds : Int64) : LinkState := { s with issuedAt := seconds }

/-- Contents must not be issued after the instant at which they are looked at. -/
def validateAt (s : LinkState) (now : Int64) : Except StateFault Unit :=
  if now < s.issuedAt then .error (.future s.issuedAt now) else .ok ()

/-- The written form of contents. -/
def toValue (s : LinkState) : Value :=
  .object <| [("tokenName", .string s.tokenName), ("tokenNamespace", .string s.tokenSpace)]
    ++ (if s.issuedAt = 0 then [] else [("issuedAt", .number (.whole s.issuedAt.toInt))])
    ++ [("scopes", .strings s.scopes), ("serviceProviderType", s.providerType.toValue),
      ("serviceProviderUrl", .string s.providerUrl)]

/-- Reads contents. -/
def reader : Reader LinkState :=
  Reader.record "struct AnonymousOAuthState" blank [
    Reader.required "tokenName" Reader.string fun n s => { s with tokenName := n },
    Reader.required "tokenNamespace" Reader.string fun n s => { s with tokenSpace := n },
    Reader.optional "issuedAt" Reader.signed64 fun n s => { s with issuedAt := n },
    Reader.required "scopes" (Reader.list Reader.string) fun l s => { s with scopes := l },
    Reader.required "serviceProviderType" ProviderType.reader
      fun t s => { s with providerType := t },
    Reader.required "serviceProviderUrl" Reader.string fun u s => { s with providerUrl := u }]

end LinkState

/-- The contents of a signed text. -/
def SigningKey.decodeState (k : SigningKey) (text : String) : Except StateFault LinkState :=
  k.decode LinkState.reader text.toList

/-- The contents of a signed text that are acceptable at an instant (`parse_anonymous`). -/
def SigningKey.parseState (k : SigningKey) (text : String) (now : Int64) :
    Except StateFault LinkState := do
  let s ← k.decodeState text
  s.validateAt now
  .ok s

end TokenSteward.OAuth
