import TokenSteward.Digest.Hmac
import TokenSteward.Text.Base64
import TokenSteward.Text.Blank
import TokenSteward.Text.Utf8
import TokenSteward.Text.Affix
import TokenSteward.Json.Reader

/-! # Signed values

A value is published as two segments with a point between them: its compact text, and the keyed
digest of that segment, both in the alphabet for URLs. A holder of the key takes a value only from
a text whose second segment is the digest of the first.
-/

namespace TokenSteward.OAuth

open TokenSteward.Json TokenSteward.Text

/-- The least length of a key in bytes (`MIN_STATE_KEY_LEN`). -/
def leastKeyLength : Nat := 32

/-- Why something is no key. -/
inductive KeyFault where
  | encoding
  | tooShort (length : Nat)
deriving DecidableEq, Repr

/-- A key long enough to sign with. Its holder is the `StateCodec`. -/
structure SigningKey where
  bytes : List UInt8
  enough : leastKeyLength ≤ bytes.length
deriving DecidableEq

namespace SigningKey

/-- The key of some bytes. -/
def ofBytes (bytes : List UInt8) : Except KeyFault SigningKey :=
  if enough : leastKeyLength ≤ bytes.length then .ok ⟨bytes, enough⟩
  else .error (.tooShort bytes.length)

/-- The key of a text in base64, which may stand between blanks. -/
def ofText (s : String) : Except KeyFault SigningKey :=
  match Base64.decode Base64.standard (trimmed s.toList) with
  | some bytes => ofBytes bytes
  | none => .error .encoding

/-- What a log shows of the holder of any key. -/
def describe (_ : SigningKey) : String := "StateCodec \x7b .. \x7d"

end SigningKey

/-- Why a text is not a signed value, or the value not an acceptable one (`StateError`). -/
inductive StateFault where
  | malformed (message : String)
  | mismatch
  | payload (place message : String)
  | future (issuedAt now : Int64)
deriving DecidableEq, Repr

namespace StateFault

/-- The fault of a text without a point. -/
def noSignature : StateFault := .malformed "missing signature segment"

/-- The fault of a second segment that is not written in the alphabet. -/
def badSignature : StateFault := .malformed "signature is not valid base64url"

/-- The fault of a first segment that is not written in the alphabet. -/
def badPayload : StateFault := .malformed "payload is not valid base64url"

/-- The wording of a fault. -/
def message : StateFault → String
  | .malformed message => "OAuth state is malformed: " ++ message ++ "."
  | .mismatch => "OAuth state signature mismatch."
  | .payload place message =>
    "OAuth state payload is invalid at " ++ marked place ++ ": " ++ message ++ "."
  | .future issuedAt now => "OAuth state is a request from the future: issued at "
      ++ Number.intText issuedAt.toInt ++ ", now " ++ Number.intText now.toInt ++ "."

end StateFault

namespace SigningKey

/-- The digest of a segment, in the alphabet for URLs. -/
def signature (k : SigningKey) (segment : List Char) : List Char :=
  Base64.encode Base64.urlSafe (Digest.hmac k.bytes (Utf8.encode segment))

/-- The signed text of a value (`encode`). -/
def sign (k : SigningKey) (v : Value) : List Char :=
  let payload := Base64.encode Base64.urlSafe (Utf8.encode v.text)
  payload ++ '.' :: k.signature payload

/-- The bytes of a signed text. The digest is checked before the first segment is looked into. -/
def verify (k : SigningKey) (text : List Char) : Except StateFault (List UInt8) :=
  match cut? ['.'] text with
  | none => .error .noSignature
  | some (payload, signature) =>
    match Base64.decode Base64.urlSafe signature with
    | none => .error .badSignature
    | some bytes =>
      if bytes ≠ Digest.hmac k.bytes (Utf8.encode payload) then .error .mismatch
      else match Base64.decode Base64.urlSafe payload with
        | none => .error .badPayload
        | some contents => .ok contents

/-- Reads a value from a signed text. Only the front of the payload is looked at. -/
def decode {α : Type} (k : SigningKey) (r : Reader α) (text : List Char) : Except StateFault α := do
  let contents ← k.verify text
  match r.front (Utf8.decode contents) with
  | .ok a => .ok a
  | .error fault => .error (.payload fault.place fault.message)

end SigningKey

end TokenSteward.OAuth
