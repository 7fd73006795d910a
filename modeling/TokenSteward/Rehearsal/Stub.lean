import TokenSteward.Provider.Registry

/-! # Stand-ins for service providers

A stand-in translates permissions by a table. Its entries are for one permission, for an area, or
for everything, and the closest one counts.
-/

namespace TokenSteward.Rehearsal

open TokenSteward.Resource TokenSteward.Provider

/-- Scopes by the text of a permission, the name of an area, or `*`. -/
abbrev ScopeTable := Table String (List String)

/-- The scopes of a permission: its own entry, its area's, the common one, or none. -/
def ScopeTable.translate (t : ScopeTable) (p : Permission) : List String :=
  (((t.get? p.text).or (t.get? p.area.text)).or (t.get? "*")).getD []

/-- A stand-in of a type, at a URL, with a table of scopes. -/
def stub (type : ProviderType) (baseUrl : String) (scopes : ScopeTable) : Service :=
  ⟨type, baseUrl, scopes.translate⟩

end TokenSteward.Rehearsal
