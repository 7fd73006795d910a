import TokenSteward.Json.Reader
import TokenSteward.Text.Described

/-! # Secret records

A secret record holds a credential, who it belongs to and when it ends. The credential never
appears in a description.
-/

namespace TokenSteward.Secret

open TokenSteward.Json TokenSteward.Text

/-- A credential (`TokenSecret`). -/
structure Credential where
  exposed : String
deriving DecidableEq, Inhabited

namespace Credential

/-- Whether there is no credential at all. -/
def isEmpty (c : Credential) : Bool := c.exposed.isEmpty

/-- What a log shows of any credential. -/
def describe (_ : Credential) : String := "TokenSecret(" ++ quoted redacted ++ ")"

/-- What a text shows of any credential. -/
def shown (_ : Credential) : String := redacted

/-- The written form of a credential, which is the credential itself. -/
def toValue (c : Credential) : Value := .string c.exposed

/-- Reads a credential. -/
def reader : Reader Credential := Reader.string.map Credential.mk

end Credential

/-- A secret record (`Token`): a credential with what belongs to it. -/
structure Record where
  credential : Credential
  username : String
  expiry : UInt64
deriving DecidableEq, Inhabited

namespace Record

/-- A record without contents. -/
def blank : Record := ⟨⟨""⟩, "", 0⟩

/-- What a log shows of a record. -/
def describe (r : Record) : String :=
  recordText "Token" [("access_token", quoted redacted), ("username", quoted r.username),
    ("expiry", Number.natText r.expiry.toNat)]

/-- The written form of a record. -/
def toValue (r : Record) : Value :=
  .object [("accessToken", r.credential.toValue), ("username", .string r.username),
    ("expiry", .nat r.expiry.toNat)]

/-- Reads a record. -/
def reader : Reader Record :=
  Reader.record "struct Token" blank [
    Reader.optional "accessToken" Credential.reader fun c r => { r with credential := c },
    Reader.optional "username" Reader.string fun u r => { r with username := u },
    Reader.optional "expiry" Reader.word64 fun e r => { r with expiry := e }]

end Record

end TokenSteward.Secret
