import TokenSteward.Proofs.Provider.Places

/-! # What a URL resolves to

A provider claims the URLs that are its base or continue it at a path boundary. Of the providers that
claim a URL the registry picks one with the longest base, and of those with the same base the one that
was registered last. Two bases that a URL continues are both beginnings of it, so they are the same as
soon as they are equally long: if no two providers have the same base, nothing is left to the order in
which they were registered.
-/

namespace TokenSteward.Provider

/-- A provider claims a URL: its base without the slashes at its end is not empty, and the URL is that
base or continues it with a slash. -/
def Service.Claims (p : Service) (url : String) : Prop :=
  p.base ≠ [] ∧ (url.toList = p.base ∨ ∃ rest, url.toList = p.base ++ '/' :: rest)

theorem Service.claims_iff {p : Service} {url : String} :
    p.Claims url ↔ liesUnder p.base url.toList = true :=
  liesUnder_iff.symm

/-- Two bases that claim one URL are the same if they are equally long. -/
theorem Service.Claims.base_eq {p q : Service} {url : String} (first : p.Claims url)
    (second : q.Claims url) (long : Registry.byteLength q.base = Registry.byteLength p.base) :
    q.base = p.base := by
  have begins := isPrefix_of_liesUnder (claims_iff.mp first)
  have other := isPrefix_of_liesUnder (claims_iff.mp second)
  rcases List.prefix_or_prefix_of_prefix other begins with here | there
  · exact (Registry.byteLength_of_isPrefix here).resolve_right (by omega)
  · exact ((Registry.byteLength_of_isPrefix there).resolve_right (by omega)).symm

namespace Registry

variable {r s : Registry} {p : Service} {url : String}

/-- What a registry has a URL resolve to: a provider that claims the URL, has the longest base of all
that do, and is the last that was registered with this base. -/
structure Resolves (r : Registry) (url : String) (p : Service) : Prop where
  claims : p.Claims url
  longest : ∀ q ∈ r, q.Claims url → byteLength q.base ≤ byteLength p.base
  last : ∃ before after, r = before ++ p :: after ∧ ∀ q ∈ after, q.base ≠ p.base

theorem Resolves.mem (resolves : Resolves r url p) : p ∈ r := by
  obtain ⟨before, after, rfl, _⟩ := resolves.last
  simp

/-- A URL belongs to the provider that it resolves to, and to no other. -/
theorem forUrl?_eq_some_iff_resolves : forUrl? r url = some p ↔ Resolves r url p := by
  rw [forUrl?_eq_some_iff]
  constructor
  · rintro ⟨before, after, rfl, lies, early, late⟩
    refine ⟨Service.claims_iff.mpr lies, fun q here claims => ?_, before, after, rfl, fun q here same => ?_⟩
    · rw [Service.claims_iff] at claims
      rcases List.mem_append.mp here with first | rest
      · exact early q first claims
      · rcases List.mem_cons.mp rest with rfl | later
        · exact Nat.le_refl _
        · exact (late q later claims).le
    · have shorter := late q here (same ▸ lies)
      rw [same] at shorter
      exact absurd shorter (lt_irrefl _)
  · rintro ⟨claims, longest, before, after, rfl, last⟩
    refine ⟨before, after, rfl, Service.claims_iff.mp claims, fun q here lies => ?_, fun q here lies => ?_⟩
    · exact longest q (by simp [here]) (Service.claims_iff.mpr lies)
    · have claims' := Service.claims_iff.mpr lies
      refine lt_of_le_of_ne (longest q (by simp [here]) claims') fun same => ?_
      exact last q here (claims.base_eq claims' same)

/-- If no two providers have the same base, none was registered with a base before or after another. -/
theorem resolves_iff_of_nodup (apart : (r.map Service.base).Nodup) :
    Resolves r url p ↔ p ∈ r ∧ p.Claims url ∧
      ∀ q ∈ r, q.Claims url → byteLength q.base ≤ byteLength p.base := by
  constructor
  · exact fun resolves => ⟨resolves.mem, resolves.claims, resolves.longest⟩
  · rintro ⟨here, claims, longest⟩
    obtain ⟨before, after, rfl⟩ := List.append_of_mem here
    refine ⟨claims, longest, before, after, rfl, fun q later same => ?_⟩
    rw [List.map_append, List.nodup_append, List.map_cons, List.nodup_cons] at apart
    exact apart.2.1.1 (same ▸ List.mem_map_of_mem later)

/-- The order of registration does not matter if no two providers have the same base. -/
theorem forUrl?_eq_of_perm (apart : (r.map Service.base).Nodup) (shuffled : s.Perm r) (url : String) :
    forUrl? s url = forUrl? r url := by
  have apart' : (s.map Service.base).Nodup := (shuffled.map Service.base).nodup_iff.mpr apart
  apply Option.ext
  intro p
  simp only [forUrl?_eq_some_iff_resolves, resolves_iff_of_nodup apart,
    resolves_iff_of_nodup apart', shuffled.mem_iff]

/-- A URL resolves exactly if a provider claims it, to a provider with the longest base of those that
claim it, the last one with that base; and if no two providers have the same base, to the same one in
whatever order they were registered. -/
theorem forUrl?_resolves_longest (r : Registry) :
    (∀ url, (forUrl? r url).isSome = true ↔ ∃ q ∈ r, q.Claims url) ∧
    (∀ url p, forUrl? r url = some p ↔ Resolves r url p) ∧
    ((r.map Service.base).Nodup → ∀ s, s.Perm r → ∀ url, forUrl? s url = forUrl? r url) := by
  refine ⟨fun url => ?_, fun url p => forUrl?_eq_some_iff_resolves,
    fun apart s shuffled => forUrl?_eq_of_perm apart shuffled⟩
  rw [Option.isSome_iff_ne_none, ne_eq, forUrl?_eq_none_iff]
  simp [Service.claims_iff]

/-- Providers with bases inside one another, each with a base of its own. -/
def nestedBases : Registry :=
  ["https://git.example//", "https://git.example/group", "https://git.example/gr/", "/"].map fun url =>
    ⟨default, url, fun _ => []⟩

theorem forUrl?_resolves_longest_nested : (nestedBases.map Service.base).Nodup ∧
    ∃ p, p.baseUrl = "https://git.example/group" ∧
      Resolves nestedBases "https://git.example/group/repo" p ∧
      forUrl? nestedBases.reverse "https://git.example/group/repo" = some p := by
  have apart : (nestedBases.map Service.base).Nodup := by decide +kernel
  have found : (forUrl? nestedBases "https://git.example/group/repo").map (·.baseUrl) =
      some "https://git.example/group" := by decide +kernel
  obtain ⟨p, here, named⟩ := Option.map_eq_some_iff.mp found
  refine ⟨apart, p, named, ((forUrl?_resolves_longest nestedBases).2.1 _ p).mp here, ?_⟩
  exact ((forUrl?_resolves_longest nestedBases).2.2 apart _ (List.reverse_perm _) _).trans here

end Registry

end TokenSteward.Provider
