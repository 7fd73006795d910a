import TokenSteward.Proofs.Text.Affix
import TokenSteward.Provider.Registry

/-! # Where a registry decides

The provider that a URL belongs to stands at one place of the registry: its base is at least as long
as the bases of those before it and longer than the bases of those after it, of all under which the
URL lies. The URL of a provider lies under its own base, and under no other than a beginning of that
base: what a URL has after the base is nothing but slashes, and no base ends in one. So whoever
decides on a URL decides on the URL of its own as well.
-/

namespace TokenSteward.Provider

open TokenSteward.Text

/-! ## Trimmed bases -/

theorem Service.trimEnd_base (p : Service) : trimEnd '/' p.base = p.base :=
  List.rdropWhile_idempotent (· == '/') p.baseUrl.toList

/-- The URL of a provider is its base with slashes behind it. -/
theorem Service.exists_slashes (p : Service) :
    ∃ slashes : List Char, p.baseUrl.toList = p.base ++ slashes ∧ ∀ c ∈ slashes, c = '/' :=
  exists_trimEnd_append '/' p.baseUrl.toList

/-! ## What lies under a base -/

theorem liesUnder_iff {base url : List Char} :
    liesUnder base url = true ↔
      base ≠ [] ∧ (url = base ∨ ∃ rest, url = base ++ '/' :: rest) := by
  unfold liesUnder
  cases found : after? base url with
  | none =>
    have apart : ∀ rest, url ≠ base ++ rest := by
      rintro rest rfl
      simp [after?_append] at found
    have other := apart []
    rw [List.append_nil] at other
    simp [other, apart]
  | some rest =>
    obtain rfl := after?_eq_some_iff.mp found
    cases rest <;> simp

theorem isPrefix_of_liesUnder {base url : List Char} (lies : liesUnder base url = true) :
    base <+: url := by
  rcases (liesUnder_iff.mp lies).2 with rfl | ⟨rest, rfl⟩
  · exact List.prefix_rfl
  · exact List.prefix_append _ _

/-- The URL of a provider lies under its own base, unless that is empty. -/
theorem Service.liesUnder_baseUrl (p : Service) (filled : p.base ≠ []) :
    liesUnder p.base p.baseUrl.toList = true := by
  obtain ⟨slashes, same, all⟩ := p.exists_slashes
  refine liesUnder_iff.mpr ⟨filled, ?_⟩
  cases slashes with
  | nil => exact .inl (by simpa using same)
  | cons c rest =>
    obtain rfl := all c List.mem_cons_self
    exact .inr ⟨rest, same⟩

/-- A base under which the URL of a provider lies is a beginning of that provider's base. -/
theorem Service.isPrefix_of_liesUnder_baseUrl {p q : Service}
    (lies : liesUnder q.base p.baseUrl.toList = true) : q.base <+: p.base :=
  isPrefix_trimEnd (isPrefix_of_liesUnder lies) q.trimEnd_base

namespace Registry

/-! ## Lengths -/

theorem byteLength_append (s t : List Char) : byteLength (s ++ t) = byteLength s + byteLength t := by
  induction s with
  | nil => simp [byteLength]
  | cons c s ih =>
    change c.utf8Size + byteLength (s ++ t) = c.utf8Size + byteLength s + byteLength t
    rw [ih, Nat.add_assoc]

/-- A beginning of a text is the text, or shorter. -/
theorem byteLength_of_isPrefix {s t : List Char} (begins : s <+: t) :
    s = t ∨ byteLength s < byteLength t := by
  obtain ⟨rest, rfl⟩ := begins
  cases rest with
  | nil => exact .inl (List.append_nil s).symm
  | cons c rest =>
    have longer : 0 < byteLength (c :: rest) := Nat.add_pos_left c.utf8Size_pos _
    rw [byteLength_append]
    exact .inr (by omega)

/-! ## The place that decides -/

/-- A provider at a place of a registry decides on a URL: those before it have no longer bases, and
those after it shorter ones. -/
structure Decides (before : Registry) (p : Service) (after : Registry) (url : List Char) : Prop where
  lies : liesUnder p.base url = true
  early : ∀ q ∈ before, liesUnder q.base url = true → byteLength q.base ≤ byteLength p.base
  late : ∀ q ∈ after, liesUnder q.base url = true → byteLength q.base < byteLength p.base

variable {r before after : Registry} {p q : Service} {url : String}

theorem forUrl?_snoc (r : Registry) (q : Service) (url : String) :
    forUrl? (r ++ [q]) url =
      if liesUnder q.base url.toList then longer (forUrl? r url) q else forUrl? r url := by
  unfold forUrl?
  rw [List.filter_append, List.foldl_append]
  cases lies : liesUnder q.base url.toList <;> simp [lies]

theorem longer_cases (best : Option Service) (q : Service) :
    longer best q = some q ∧ (∀ b ∈ best, byteLength b.base ≤ byteLength q.base) ∨
      longer best q = best ∧ ∃ b, best = some b ∧ byteLength q.base < byteLength b.base := by
  cases best with
  | none => exact .inl ⟨rfl, by simp⟩
  | some b =>
    unfold longer
    dsimp only
    split
    · next shorter => exact .inr ⟨rfl, b, rfl, shorter⟩
    · next enough => exact .inl ⟨rfl, by simpa using enough⟩

theorem forUrl?_eq_none_iff :
    forUrl? r url = none ↔ ∀ q ∈ r, liesUnder q.base url.toList = false := by
  induction r using List.reverseRecOn with
  | nil => simp [forUrl?]
  | append_singleton r q ih =>
    rw [forUrl?_snoc]
    split
    · next lies =>
      have found : longer (forUrl? r url) q ≠ none := by
        rcases longer_cases (forUrl? r url) q with ⟨new, _⟩ | ⟨old, b, same, _⟩
        · simp [new]
        · rw [old, same]
          simp
      refine iff_of_false found fun all => ?_
      rw [all q (by simp)] at lies
      contradiction
    · next apart =>
      have apart : liesUnder q.base url.toList = false := by simpa using apart
      refine ih.trans ⟨fun all => List.forall_mem_append.mpr ⟨all, by simpa using apart⟩, fun all => ?_⟩
      exact (List.forall_mem_append.mp all).1

/-- The provider that a URL belongs to decides at some place of the registry. -/
theorem exists_decides (found : forUrl? r url = some p) :
    ∃ before after, r = before ++ p :: after ∧ Decides before p after url.toList := by
  induction r using List.reverseRecOn generalizing p with
  | nil => simp [forUrl?] at found
  | append_singleton r q ih =>
    rw [forUrl?_snoc] at found
    split at found
    · next lies =>
      rcases longer_cases (forUrl? r url) q with ⟨new, above⟩ | ⟨old, b, same, shorter⟩
      · obtain rfl : q = p := Option.some.inj (new.symm.trans found)
        refine ⟨r, [], rfl, lies, fun q' here under => ?_, by simp⟩
        cases best : forUrl? r url with
        | none =>
          rw [forUrl?_eq_none_iff.mp best q' here] at under
          contradiction
        | some b =>
          obtain ⟨before, after, rfl, decides⟩ := ih best
          have least := above b best
          rcases List.mem_append.mp here with there | there
          · exact (decides.early q' there under).trans least
          · rcases List.mem_cons.mp there with rfl | there
            · exact least
            · exact (decides.late q' there under).le.trans least
      · obtain rfl : b = p := Option.some.inj (same.symm.trans (old.symm.trans found))
        obtain ⟨before, after, rfl, decides⟩ := ih same
        refine ⟨before, after ++ [q], by simp, decides.lies, decides.early, ?_⟩
        exact List.forall_mem_append.mpr ⟨decides.late, by simpa using fun _ => shorter⟩
    · next apart =>
      obtain ⟨before, after, rfl, decides⟩ := ih found
      refine ⟨before, after ++ [q], by simp, decides.lies, decides.early, ?_⟩
      exact List.forall_mem_append.mpr ⟨decides.late, by simpa using fun lies => absurd lies apart⟩

/-- Only the place that decides gives the provider. -/
theorem forUrl?_of_decides (decides : Decides before p after url.toList) :
    forUrl? (before ++ p :: after) url = some p := by
  induction after using List.reverseRecOn with
  | nil =>
    rw [forUrl?_snoc, if_pos decides.lies]
    rcases longer_cases (forUrl? before url) p with ⟨new, _⟩ | ⟨_, b, same, shorter⟩
    · exact new
    · obtain ⟨early, late, rfl, first⟩ := exists_decides same
      have bound := decides.early b (by simp) first.lies
      omega
  | append_singleton after q ih =>
    have found := ih ⟨decides.lies, decides.early, fun q' here => decides.late q' (by simp [here])⟩
    rw [← List.cons_append, ← List.append_assoc, forUrl?_snoc, found]
    split
    · next lies => exact if_pos (decides.late q (by simp) lies)
    · rfl

/-- A URL belongs to the provider that decides on it. -/
theorem forUrl?_eq_some_iff : forUrl? r url = some p ↔
    ∃ before after, r = before ++ p :: after ∧ Decides before p after url.toList := by
  refine ⟨exists_decides, ?_⟩
  rintro ⟨before, after, rfl, decides⟩
  exact forUrl?_of_decides decides

/-- The provider that decides on a URL decides on its own URL, at the same place. -/
theorem Decides.own {url : List Char} (decides : Decides before p after url) :
    Decides before p after p.baseUrl.toList := by
  refine ⟨p.liesUnder_baseUrl (liesUnder_iff.mp decides.lies).1, fun q here under => ?_,
    fun q here under => ?_⟩
  · rcases byteLength_of_isPrefix (Service.isPrefix_of_liesUnder_baseUrl under) with same | shorter
    · rw [same]
    · exact shorter.le
  · rcases byteLength_of_isPrefix (Service.isPrefix_of_liesUnder_baseUrl under) with same | shorter
    · have bound := decides.late q here (same ▸ decides.lies)
      rw [same] at bound
      exact absurd bound (lt_irrefl _)
    · exact shorter

end Registry

end TokenSteward.Provider
