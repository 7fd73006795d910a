import TokenSteward.Json.Reader

/-! # Failures of a service provider

A provider answers with an error status or cannot be reached. Two statuses say that the credential
itself is no good; everything else may pass.
-/

namespace TokenSteward.Provider

open TokenSteward.Json TokenSteward.Number

/-- How many characters of an answer are kept (`RESPONSE_PREVIEW_LIMIT`). -/
def previewLength : Nat := 256

/-- Why a provider did not do what it was asked for (`ServiceProviderError`). -/
inductive ProviderFailure where
  | response (status : UInt16) (body : String)
  | unavailable (message : String)
deriving DecidableEq, Repr

namespace ProviderFailure

/-- The beginning of an answer, with a mark if something was left out (`truncate_preview`). -/
def preview (body : String) : String :=
  if body.length ≤ previewLength then body
  else String.ofList (body.toList.take previewLength ++ ['…'])

/-- The failure of an answer with a status, of which only a preview is kept. -/
def ofResponse (status : UInt16) (body : String) : ProviderFailure :=
  .response status (preview body)

/-- The status of an answer. -/
def status? : ProviderFailure → Option UInt16
  | .response status _ => some status
  | .unavailable _ => none

/-- Whether the failure says that the credential is no good (its `kind` is `Content`). -/
def isRefusal (f : ProviderFailure) : Bool := f.status? == some 401 || f.status? == some 403

/-- The wording of a failure. -/
def message : ProviderFailure → String
  | .response status body =>
    "Service provider responded with status " ++ natText status.toNat ++ ": " ++ body ++ "."
  | .unavailable message => "Service provider is unavailable: " ++ message ++ "."

/-- The written form of a failure. -/
def toValue : ProviderFailure → Value
  | .response status body =>
    .object [("Response", .object [("status_code", .nat status.toNat),
      ("response", .string body)])]
  | .unavailable message => .object [("Unavailable", .object [("message", .string message)])]

/-- Reads a failure. -/
def reader : Reader ProviderFailure :=
  Reader.choice [
    ("Response", .filled <|
      (Reader.record "struct variant ServiceProviderError::Response" ((0, "") : UInt16 × String) [
        Reader.required "status_code" Reader.word16 fun n p => (n, p.2),
        Reader.required "response" Reader.string fun s p => (p.1, s)]).map
          fun p => .response p.1 p.2),
    ("Unavailable", .filled <|
      (Reader.record "struct variant ServiceProviderError::Unavailable" "" [
        Reader.required "message" Reader.string fun m _ => m]).map .unavailable)]

end ProviderFailure

end TokenSteward.Provider
