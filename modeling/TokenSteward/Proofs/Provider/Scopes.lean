import Mathlib.Data.List.Sort
import Mathlib.Data.String.Basic
import TokenSteward.Proofs.Cluster.Listing
import TokenSteward.Provider.Registry

/-! # How wishes are listed

The scopes that are needed of a provider are listed in ascending order, each of them once. Such a list is
known from its members, so it does not matter in what order permissions and additional scopes are asked
for, nor how often, and who asks for more has a listing that the other one is a part of.
-/

namespace TokenSteward.Provider

open TokenSteward.Resource

namespace ScopeSet

/-- The scopes of a set are listed in ascending order, each of them once. -/
theorem pairwise_toList (set : ScopeSet) : (toList set).Pairwise (· < ·) := by
  apply List.pairwise_map.mpr
  exact set.ascending.imp fun first => of_decide_eq_true first

theorem mem_toList {set : ScopeSet} {scope : String} : scope ∈ toList set ↔ set.contains scope = true := by
  simp only [toList, List.mem_map, Table.contains, Table.get?, Option.isSome_iff_exists]
  constructor
  · rintro ⟨⟨scope, u⟩, present, rfl⟩
    exact ⟨u, Table.lookup_of_mem set.ascending present⟩
  · rintro ⟨u, found⟩
    exact ⟨(scope, u), Table.mem_of_lookup found, rfl⟩

/-- Two sets with the same scopes are the same. -/
theorem eq_of_mem_iff {set other : ScopeSet} (same : ∀ scope, scope ∈ toList set ↔ scope ∈ toList other) :
    set = other := by
  have listed : toList set = toList other :=
    (pairwise_toList set).eq_of_mem_iff (pairwise_toList other) same
  have entries : set.entries = other.entries :=
    List.map_injective_iff.mpr (fun a b first => Prod.ext first rfl) listed
  cases set
  cases other
  simpa using entries

/-- A set with more scopes lists those of the other in between. -/
theorem sublist_of_subset {set other : ScopeSet} (among : toList set ⊆ toList other) :
    (toList set).Sublist (toList other) :=
  List.sublist_of_subperm_of_pairwise (List.subperm_of_subset (pairwise_toList set).nodup among)
    (pairwise_toList set) (pairwise_toList other)

theorem mem_extend {set : ScopeSet} {scopes : List String} {scope : String} :
    scope ∈ toList (extend set scopes) ↔ scope ∈ toList set ∨ scope ∈ scopes := by
  simp only [mem_toList, contains_extend, Bool.or_eq_true, List.contains_iff_mem]

theorem mem_ofList {scopes : List String} {scope : String} :
    scope ∈ toList (ofList scopes) ↔ scope ∈ scopes := by
  rw [ofList, mem_extend]
  simp [toList, Table.empty]

/-- The set of some scopes, extended by others, lot by lot. -/
def gathered (first : List String) (lots : List (List String)) : ScopeSet :=
  lots.foldl extend (ofList first)

theorem mem_foldl_extend {set : ScopeSet} {lots : List (List String)} {scope : String} :
    scope ∈ toList (lots.foldl extend set) ↔ scope ∈ toList set ∨ scope ∈ lots.flatten := by
  induction lots generalizing set with
  | nil => simp
  | cons scopes lots ih => rw [List.foldl_cons, ih, mem_extend, List.flatten_cons, List.mem_append, or_assoc]

theorem mem_gathered {first : List String} {lots : List (List String)} {scope : String} :
    scope ∈ toList (gathered first lots) ↔ scope ∈ first ++ lots.flatten := by
  rw [gathered, mem_foldl_extend, mem_ofList, List.mem_append]

end ScopeSet

/-- A scope is asked for: one of the permissions translates to it, or it is an additional one. -/
def Wants (translate : Permission → List String) (wanted : Permissions) (scope : String) : Prop :=
  (∃ p ∈ wanted.required, scope ∈ translate p) ∨ scope ∈ wanted.additionalScopes

/-- Exactly the scopes that are asked for are needed. -/
theorem mem_requiredScopes {translate : Permission → List String} {wanted : Permissions} {scope : String} :
    scope ∈ ScopeSet.toList (requiredScopes translate wanted) ↔ Wants translate wanted scope := by
  rw [requiredScopes, ScopeSet.mem_extend, ScopeSet.mem_ofList, List.mem_flatMap, Wants]

/-- The permissions and the additional scopes are the same, in whatever order and however often. -/
structure Rewords (wanted other : Permissions) : Prop where
  required : ∀ p, p ∈ wanted.required ↔ p ∈ other.required
  additional : ∀ scope, scope ∈ wanted.additionalScopes ↔ scope ∈ other.additionalScopes

theorem Rewords.wants_iff {wanted other : Permissions} (rewords : Rewords wanted other)
    {translate : Permission → List String} {scope : String} :
    Wants translate wanted scope ↔ Wants translate other scope := by
  simp only [Wants, rewords.required, rewords.additional]

/-- Wishes in other words need the same scopes. -/
theorem Rewords.requiredScopes_eq {wanted other : Permissions} (rewords : Rewords wanted other)
    (translate : Permission → List String) :
    requiredScopes translate wanted = requiredScopes translate other :=
  ScopeSet.eq_of_mem_iff fun _ =>
    mem_requiredScopes.trans (rewords.wants_iff.trans mem_requiredScopes.symm)

/-- All that is asked for is asked for by others too. -/
structure Within (wanted other : Permissions) : Prop where
  required : wanted.required ⊆ other.required
  additional : wanted.additionalScopes ⊆ other.additionalScopes

theorem Within.wants {wanted other : Permissions} (within : Within wanted other)
    {translate : Permission → List String} {scope : String} (wants : Wants translate wanted scope) :
    Wants translate other scope := by
  rcases wants with ⟨p, here, gives⟩ | here
  · exact .inl ⟨p, within.required here, gives⟩
  · exact .inr (within.additional here)

/-! ## The order of the listing -/

/-- The numbers of the characters of a text. -/
def codePoints (s : String) : List Nat := s.toList.map Char.toNat

/-- The order of texts is that of the numbers of their characters. -/
theorem map_toNat_lt_iff {a b : List Char} : a.map Char.toNat < b.map Char.toNat ↔ a < b := by
  induction a generalizing b with
  | nil => cases b <;> simp
  | cons c a ih =>
    cases b with
    | nil => simp
    | cons d b =>
      have first : c.toNat < d.toNat ↔ c < d := Iff.rfl
      have same : c.toNat = d.toNat ↔ c = d := Char.toNat_inj
      simp only [List.map_cons, List.cons_lt_cons_iff, ih, first, same]

theorem codePoints_lt_iff {a b : String} : codePoints a < codePoints b ↔ a < b :=
  map_toNat_lt_iff.trans String.lt_iff_toList_lt.symm

/-- The scopes that are needed are listed in ascending order of their code points, each of them once, and
are those that are asked for. The listing is the same however the wishes are worded, and who asks for more
has all that is listed, and in the same order. A set is the same in whatever lots its scopes come. -/
theorem requiredScopes_canonical (translate : Permission → List String) (wanted : Permissions) :
    (ScopeSet.toList (requiredScopes translate wanted)).Pairwise (codePoints · < codePoints ·) ∧
    (∀ scope, scope ∈ ScopeSet.toList (requiredScopes translate wanted) ↔ Wants translate wanted scope) ∧
    (∀ other, Rewords wanted other → ScopeSet.toList (requiredScopes translate wanted) =
      ScopeSet.toList (requiredScopes translate other)) ∧
    (∀ other, Within wanted other → (ScopeSet.toList (requiredScopes translate wanted)).Sublist
      (ScopeSet.toList (requiredScopes translate other))) ∧
    ∀ first lots first' lots',
      (∀ scope, scope ∈ first ++ List.flatten lots ↔ scope ∈ first' ++ List.flatten lots') →
      ScopeSet.gathered first lots = ScopeSet.gathered first' lots' := by
  refine ⟨?_, fun _ => mem_requiredScopes, fun other rewords => ?_, fun other within => ?_,
    fun first lots first' lots' same => ?_⟩
  · exact (ScopeSet.pairwise_toList _).imp codePoints_lt_iff.mpr
  · rw [rewords.requiredScopes_eq]
  · refine ScopeSet.sublist_of_subset fun scope here => ?_
    exact mem_requiredScopes.mpr (within.wants (mem_requiredScopes.mp here))
  · exact ScopeSet.eq_of_mem_iff fun scope =>
      ScopeSet.mem_gathered.trans ((same scope).trans ScopeSet.mem_gathered.symm)

/-- Names of permissions that overlap. -/
def overlapping (p : Permission) : List String :=
  if p.area = .repository then ["repo", "read:org"] else ["read:org", "Hooks", "repo"]

/-- A wish with repetitions. -/
def wordy : Permissions :=
  ⟨[⟨.read, .webhooks⟩, ⟨.write, .repository⟩, ⟨.read, .webhooks⟩], ["\u00e9", "repo", "~", "\u00e9"]⟩

/-- The same wish without them. -/
def terse : Permissions := ⟨[⟨.write, .repository⟩, ⟨.read, .webhooks⟩], ["~", "\u00e9", "repo"]⟩

theorem requiredScopes_canonical_overlapping : Rewords wordy terse ∧
    Within ⟨[⟨.write, .repository⟩], ["repo"]⟩ wordy ∧
    ScopeSet.toList (requiredScopes overlapping wordy) = ["Hooks", "read:org", "repo", "~", "\u00e9"] ∧
    ScopeSet.toList (requiredScopes overlapping wordy) =
      ScopeSet.toList (requiredScopes overlapping terse) ∧
    ["read:org", "repo"].Sublist (ScopeSet.toList (requiredScopes overlapping wordy)) ∧
    ScopeSet.gathered ["b", "a"] [["a"], ["c"]] = ScopeSet.gathered [] [["c", "b"], [], ["a"]] := by
  have rewords : Rewords wordy terse := by
    refine ⟨fun p => ?_, fun scope => ?_⟩
    · simp only [wordy, terse, List.mem_cons, List.not_mem_nil, or_false]
      tauto
    · simp only [wordy, terse, List.mem_cons, List.not_mem_nil, or_false]
      tauto
  have within : Within ⟨[⟨.write, .repository⟩], ["repo"]⟩ wordy := ⟨by decide, by decide⟩
  have few : ScopeSet.toList (requiredScopes overlapping ⟨[⟨.write, .repository⟩], ["repo"]⟩) =
      ["read:org", "repo"] := by decide +kernel
  obtain ⟨_, _, reworded, _, gathered⟩ := requiredScopes_canonical overlapping wordy
  obtain ⟨_, _, _, more, _⟩ :=
    requiredScopes_canonical overlapping ⟨[⟨.write, .repository⟩], ["repo"]⟩
  refine ⟨rewords, within, by decide +kernel, reworded _ rewords, few ▸ more _ within,
    gathered _ _ _ _ fun scope => ?_⟩
  simp only [List.flatten_cons, List.flatten_nil, List.mem_append, List.mem_cons, List.not_mem_nil]
  tauto

end TokenSteward.Provider
