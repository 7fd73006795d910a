import TokenSteward.Table
import TokenSteward.Resource.Permission

/-! # Sets of scopes

What a token needs of its provider is a set of scopes: those that its permissions translate to, and
the additional ones as they are. The set is listed in ascending order, each scope once, so that two
equal wishes have one listing.
-/

namespace TokenSteward.Provider

open TokenSteward.Resource

/-- A set of scopes. -/
abbrev ScopeSet := Table String Unit

namespace ScopeSet

/-- The set with more scopes. -/
def extend (set : ScopeSet) (scopes : List String) : ScopeSet :=
  scopes.foldl (fun set scope => set.insert scope ()) set

/-- The set of some scopes. -/
def ofList (scopes : List String) : ScopeSet := extend Table.empty scopes

/-- The scopes of a set in ascending order. -/
def toList (set : ScopeSet) : List String := set.entries.map (·.1)

/-- A scope is in an extended set exactly if it was there or is one of the new ones. -/
theorem contains_extend (set : ScopeSet) (scopes : List String) (scope : String) :
    (extend set scopes).contains scope = (set.contains scope || scopes.contains scope) := by
  induction scopes generalizing set with
  | nil => simp [extend]
  | cons head rest ih =>
    have step : extend set (head :: rest) = extend (set.insert head ()) rest := rfl
    rw [step, ih]
    by_cases same : head = scope
    · subst same
      simp [Table.contains]
    · have other : ¬ scope = head := fun equal => same equal.symm
      simp [Table.contains, Table.get?_insert_of_ne _ _ same, other]

end ScopeSet

/-- The scopes that permissions ask for, by the names a provider has for them (`get_all_scopes`). -/
def requiredScopes (translate : Permission → List String) (wanted : Permissions) : ScopeSet :=
  ScopeSet.extend (ScopeSet.ofList (wanted.required.flatMap translate)) wanted.additionalScopes

end TokenSteward.Provider
