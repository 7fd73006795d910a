import Mathlib.Algebra.Order.Field.Basic
import Mathlib.Tactic.Linarith
import Mathlib.Data.Rat.Cast.Order
import TokenSteward.Proofs.Delay.Doubling
import TokenSteward.Proofs.Workers.Entries
import TokenSteward.Settings

/-! # Settings that were admitted

Settings are checked once, before anything is built from them, and nothing that is built from them fails
later: links can be signed, there is a worker, and no length of time is empty. A setting may be any number
of sixty-four bits. As a length of time it counts up to half of what a span can hold, so there is room for
the tenth by which a delay is made longer at most.
-/

namespace TokenSteward

open TokenSteward.Controller TokenSteward.OAuth TokenSteward.Resource TokenSteward.Time

namespace Settings

variable {s : Settings} {l : LinkSettings}

/-! ## What is checked -/

theorem validateLinks_eq_ok_iff :
    validateLinks l = .ok () ↔ l.baseUrl.isBase = true ∧ ∃ key, signingKey l.stateKey = .ok key := by
  unfold validateLinks
  cases l.baseUrl.isBase with
  | false => simp
  | true => cases signingKey l.stateKey <;> simp [Except.map]

/-- Settings are admitted if and only if none that is to be positive is zero, and links, if there are to be
any, have a base and a key. -/
theorem validate_eq_ok_iff : s.validate = .ok () ↔
    (∀ p ∈ s.positives, p.2 ≠ 0) ∧ ∀ l, s.links = some l → validateLinks l = .ok () := by
  unfold validate
  cases zero : s.positives.find? (·.2 == 0) with
  | some p =>
    have none : p.2 = 0 := by simpa using List.find?_some zero
    have listed := List.mem_of_find?_eq_some zero
    simp only [reduceCtorEq, false_iff, not_and]
    exact fun all => absurd none (all p listed)
  | none =>
    have all : ∀ p ∈ s.positives, p.2 ≠ 0 := by simpa using zero
    cases s.links with
    | none => simpa using all
    | some l => simpa using fun _ => all

/-- Admitted settings make links under the base that they give. -/
theorem linkBuilder?_of_links (admitted : s.validate = .ok ()) (links : s.links = some l) :
    ∃ key, s.linkBuilder? = .ok (some (.ofUrl l.baseUrl.text key)) := by
  obtain ⟨-, key, signs⟩ := validateLinks_eq_ok_iff.mp ((validate_eq_ok_iff.mp admitted).2 l links)
  exact ⟨key, by simp only [linkBuilder?, links, signs, bind, Except.bind]⟩

/-- Admitted settings have a builder of links just if there are to be links. -/
theorem linkBuilder?_of_validate (admitted : s.validate = .ok ()) :
    ∃ builder?, s.linkBuilder? = .ok builder? ∧ builder?.isSome = s.links.isSome := by
  cases links : s.links with
  | none => exact ⟨none, by simp only [linkBuilder?, links], rfl⟩
  | some l =>
    obtain ⟨key, made⟩ := linkBuilder?_of_links admitted links
    exact ⟨_, made, rfl⟩

/-! ## Lengths of time -/

/-- A number of seconds counts as it is, up to the greatest count. -/
theorem nanos_secondsShift (n : UInt64) :
    (secondsShift n).span.nanos = (n.toNat ⊓ greatestCount) * 1000000000 := by
  change ((n.toNat ⊓ greatestCount : Nat) * 1000000000 : Int).natAbs = _
  omega

theorem nanos_backoffBase (s : Settings) :
    s.backoffBase.span.nanos = (s.backoffBaseMillis.toNat ⊓ greatestCount) * 1000000 := by
  change ((s.backoffBaseMillis.toNat ⊓ greatestCount : Nat) * 1000000 : Int).natAbs = _
  omega

/-- A count that is not zero is not cut to zero. -/
theorem count_pos {n : UInt64} (some : n ≠ 0) : 0 < n.toNat ⊓ greatestCount := by
  have some : n.toNat ≠ 0 := fun none => some (UInt64.toNat_inj.mp none)
  exact Nat.lt_min.mpr ⟨Nat.pos_of_ne_zero some, by decide⟩

theorem secondsShift_pos {n : UInt64} (some : n ≠ 0) : 0 < (secondsShift n).span.nanos := by
  rw [nanos_secondsShift]
  exact Nat.mul_pos (count_pos some) (by decide)

theorem backoffBase_pos (some : s.backoffBaseMillis ≠ 0) : 0 < s.backoffBase.span.nanos := by
  rw [nanos_backoffBase]
  exact Nat.mul_pos (count_pos some) (by decide)

/-- Both bounds of the delays are within half of the greatest span. -/
theorem bounds_le (s : Settings) :
    s.backoffBase.span.nanos ⊔ s.backoffMax.span.nanos ≤ greatestCount * 1000000000 := by
  have cap : s.backoffMax.span.nanos = _ := nanos_secondsShift s.backoffMaxSecs
  rw [nanos_backoffBase, cap]
  omega

theorem base_fits (s : Settings) : s.tuning.backoffBase.Fits := by
  have bounds := s.bounds_le
  have half : greatestCount * 1000000000 ≤ Span.greatest.nanos := by decide
  exact (le_sup_left.trans bounds).trans half

theorem cap_fits (s : Settings) : s.tuning.backoffMax.Fits := by
  have bounds := s.bounds_le
  have half : greatestCount * 1000000000 ≤ Span.greatest.nanos := by decide
  exact (le_sup_right.trans bounds).trans half

/-- No failures make a delay of the settings too long for another tenth of it. -/
theorem delayFor_le_of_reached {b : Backoff} (s : Settings)
    (reached : b.Reached s.tuning.backoffBase s.tuning.backoffMax) (n : UInt32) :
    11 * (b.delayFor n).nanos ≤ 10 * Span.greatest.nanos := by
  have delay := reached.delayFor_le s.base_fits s.cap_fits n
  have bounds := s.bounds_le
  have half : 11 * (greatestCount * 1000000000) ≤ 10 * Span.greatest.nanos := by decide
  exact (Nat.mul_le_mul_left 11 (delay.trans bounds)).trans half

/-! ## Safety -/

/-- What is built from settings works: links can be signed if there are to be any, there is a worker, and
no length of time is empty. Whatever failures have been counted, the delays rise from the first one up to
the cap, and there are spans for all of them, also when they are made longer by a tenth or less. -/
structure Safe (s : Settings) : Prop where
  links : ∃ builder?, s.linkBuilder? = .ok builder? ∧ builder?.isSome = s.links.isSome
  workers : 0 < s.tuning.workers
  resyncPeriod : 0 < s.tuning.resyncPeriod.nanos
  deadline : 0 < s.tuning.deadline.nanos
  backoffBase : 0 < s.tuning.backoffBase.nanos
  backoffMax : 0 < s.tuning.backoffMax.nanos
  delays : ∀ b : Backoff, b.Reached s.tuning.backoffBase s.tuning.backoffMax → ∀ m n : UInt32, m ≤ n →
    s.tuning.backoffBase.nanos ≤ (b.delayFor m).nanos ∧ (b.delayFor m).nanos ≤ (b.delayFor n).nanos ∧
      (b.delayFor n).nanos ≤ s.tuning.backoffBase.nanos ⊔ s.tuning.backoffMax.nanos
  room : ∀ b : Backoff, b.Reached s.tuning.backoffBase s.tuning.backoffMax → ∀ (n : UInt32) (j : ℚ),
    0 ≤ j → j ≤ 1 / 10 → (b.delayFor n).nanos + j * (b.delayFor n).nanos ≤ (Span.greatest.nanos : ℚ)
  spread : ∀ b : Backoff, b.Reached s.tuning.backoffBase s.tuning.backoffMax → ∀ (k : Key) (j : Jitter),
    (j.spread (b.fail k).1).Fits

/-- Admitted settings are safe. -/
theorem safe_of_validate (admitted : s.validate = .ok ()) : s.Safe := by
  have all := (validate_eq_ok_iff.mp admitted).1
  simp only [positives, List.forall_mem_cons] at all
  obtain ⟨workers, resync, deadline, base, cap, -⟩ := all
  refine ⟨linkBuilder?_of_validate admitted, ?_, secondsShift_pos resync, secondsShift_pos deadline,
    backoffBase_pos base, secondsShift_pos cap, fun b reached m n later => ?_,
    fun b reached n j low high => ?_, fun b reached k j => ?_⟩
  · exact Nat.pos_of_ne_zero fun none => workers (UInt64.toNat_inj.mp none)
  · exact ⟨reached.base_le_delayFor s.base_fits s.cap_fits m,
      reached.delayFor_le_delayFor s.base_fits s.cap_fits later,
      reached.delayFor_le s.base_fits s.cap_fits n⟩
  · have room := s.delayFor_le_of_reached reached n
    have room : (11 * (b.delayFor n).nanos : ℚ) ≤ 10 * Span.greatest.nanos := by exact_mod_cast room
    have share : j * (b.delayFor n).nanos ≤ 1 / 10 * (b.delayFor n).nanos :=
      mul_le_mul_of_nonneg_right high (Nat.cast_nonneg _)
    linarith
  · have room := s.delayFor_le_of_reached reached (b.failuresOf k)
    have longer := (j.stretches (b.fail k).1).le_least
    have delay : (b.fail k).1 = b.delayFor (b.failuresOf k) := rfl
    rw [delay] at longer
    simp only [Span.Fits, delay]
    omega

/-- Every length of time is the greatest number that a setting can be. -/
def utmost : Settings :=
  let most : UInt64 := 18446744073709551615
  ⟨1, most, most, most, most, most,
    some ⟨⟨"https".toList, some ⟨[], [], some (.name "o.example".toList), none⟩, .segments [[]], none, none⟩,
      "MDEyMzQ1Njc4OWFiY2RlZjAxMjM0NTY3ODlhYmNkZWY="⟩⟩

theorem safe_of_validate_utmost : utmost.validate = .ok () ∧
    (∃ builder, utmost.linkBuilder? = .ok (some builder)) ∧ 0 < utmost.tuning.resyncPeriod.nanos ∧
    ∃ b : Backoff, b.Reached utmost.tuning.backoffBase utmost.tuning.backoffMax ∧
      (b.delayFor 9).nanos ≤ (b.delayFor 10).nanos ∧
      (b.delayFor 10).nanos + 1 / 10 * (b.delayFor 10).nanos ≤ (Span.greatest.nanos : ℚ) ∧
      ∀ j : Jitter, (j.spread (b.fail ⟨"dev", "git"⟩).1).Fits := by
  have admitted : utmost.validate = .ok () := by decide +kernel
  have safe := safe_of_validate admitted
  obtain ⟨builder?, made, some⟩ := safe.links
  obtain ⟨builder, rfl⟩ := Option.isSome_iff_exists.mp some
  have anew : (Backoff.start utmost.tuning.backoffBase utmost.tuning.backoffMax).Reached
      utmost.tuning.backoffBase utmost.tuning.backoffMax := .start
  have reached := Backoff.Reached.fail ⟨"dev", "git"⟩ anew
  exact ⟨admitted, ⟨builder, made⟩, safe.resyncPeriod, _, reached,
    (safe.delays _ reached 9 10 (by decide)).2.1, safe.room _ reached 10 _ (by norm_num) le_rfl,
    safe.spread _ reached _⟩

end Settings

end TokenSteward
