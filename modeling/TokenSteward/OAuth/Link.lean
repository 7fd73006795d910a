import TokenSteward.OAuth.State
import TokenSteward.Text.Described

/-! # Links

A link leads to the service that obtains credentials: under a base, to the page of the provider's
type, with the signed contents as its only parameter. Who built a link can tell its contents again.
-/

namespace TokenSteward.OAuth

open TokenSteward.Text

/-- Builds links under a base and signs them (`OAuthUrlBuilder`). -/
structure LinkBuilder where
  base : List Char
  key : SigningKey
deriving DecidableEq

namespace LinkBuilder

/-- The builder of links under a URL. Slashes at its end are dropped. -/
def ofUrl (url : List Char) (key : SigningKey) : LinkBuilder := ⟨trimEnd '/' url, key⟩

/-- What stands between the provider's type and the signed contents. -/
def marker : List Char := "/authenticate?state=".toList

/-- The link with some contents (`authenticate_url`). -/
def link (b : LinkBuilder) (s : LinkState) : List Char :=
  b.base ++ '/' :: s.providerType.name.toList ++ marker ++ b.key.sign s.toValue

/-- The contents of a link that this builder could have built (`published_state`). -/
def published? (b : LinkBuilder) (url : List Char) : Option LinkState := do
  let rest ← after? b.base url
  let rest ← after? ['/'] rest
  let (type, signed) ← cut? marker rest
  match b.key.decode LinkState.reader signed with
  | .ok s => if s.providerType.name.toList = type then some s else none
  | .error _ => none

/-- What a log shows of a builder. -/
def describe (b : LinkBuilder) : String :=
  recordText "OAuthUrlBuilder" [("base_url", quoted (String.ofList b.base)),
    ("codec", b.key.describe)]

end LinkBuilder

end TokenSteward.OAuth
