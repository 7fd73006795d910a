import TokenSteward.Provider.Identifier
import TokenSteward.Provider.Scopes
import TokenSteward.Text.Affix
import TokenSteward.Text.Described

/-! # The registry of service providers

A URL belongs to the provider whose base it equals or continues at a path boundary. Of several such
bases the longest decides, and of equal ones the provider that was registered last.
-/

namespace TokenSteward.Provider

open TokenSteward.Text TokenSteward.Resource

/-- A `ServiceProvider`: its `provider_type`, the `base_url` under which its resources lie, and the
scopes by which it calls a permission (`translate_to_scopes`). -/
structure Service where
  type : ProviderType
  baseUrl : String
  translate : Permission → List String

instance : Inhabited Service := ⟨⟨default, "", fun _ => []⟩⟩

namespace Service

/-- The base of a provider without the slashes at its end. -/
def base (p : Service) : List Char := trimEnd '/' p.baseUrl.toList

/-- The scopes that a provider needs for what is wanted: the `required_scopes` that every provider has
that does not define its own. No other provider is meant here. -/
def requiredScopes (p : Service) (wanted : Permissions) : ScopeSet :=
  TokenSteward.Provider.requiredScopes p.translate wanted

end Service

/-- Whether a URL equals a base or continues it at a path boundary (`url_matches`). Nothing lies under an
empty base. -/
def liesUnder (base url : List Char) : Bool :=
  !base.isEmpty && match after? base url with
    | none => false
    | some [] => true
    | some (c :: _) => c == '/'

/-- The providers in the order of their registration (`ServiceProviderRegistry`). -/
abbrev Registry := List Service

namespace Registry

/-- The number of bytes of a text. -/
def byteLength (s : List Char) : Nat := s.foldr (fun c n => c.utf8Size + n) 0

/-- The later of two providers, unless the earlier has the longer base. -/
def longer (best : Option Service) (p : Service) : Option Service :=
  match best with
  | none => some p
  | some b => if byteLength p.base < byteLength b.base then some b else some p

/-- The provider that a URL belongs to (`for_url`). -/
def forUrl? (r : Registry) (url : String) : Option Service :=
  (r.filter fun p => liesUnder p.base url.toList).foldl longer none

/-- The first provider of a type. -/
def byType? (r : Registry) (type : ProviderType) : Option Service :=
  r.find? fun p => p.type = type

/-- What a log shows of a registry. -/
def describe (r : Registry) : String :=
  listText (r.map fun p => "(" ++ quoted p.type.name ++ ", " ++ quoted p.baseUrl ++ ")")

end Registry

end TokenSteward.Provider
