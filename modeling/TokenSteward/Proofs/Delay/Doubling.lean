import Mathlib.Algebra.Group.Nat.Defs
import Mathlib.Order.Lattice
import Mathlib.Order.Nat
import TokenSteward.Backoff

/-! # Delays double up to a cap

Each failure in a row is to double the delay, until it meets the cap, which is at least the first delay.
The factor is a number of thirty-two bits, and from the thirty-second failure on it stays at the greatest
of them, one less than the power that it stands for. Nobody sees this while the cap is within reach of the
greatest factor. If it is not, the delay never comes to the cap and stays short of it for good.
-/

namespace TokenSteward

open TokenSteward.Resource TokenSteward.Time

namespace Time.Span

/-- A span is not longer than the greatest one. -/
def Fits (s : Span) : Prop := s.nanos ≤ greatest.nanos

instance (s : Span) : Decidable s.Fits := inferInstanceAs (Decidable (_ ≤ _))

variable (a b : Span)

@[simp] theorem nanos_min : (a.min b).nanos = a.nanos ⊓ b.nanos := rfl

@[simp] theorem nanos_max : (a.max b).nanos = a.nanos ⊔ b.nanos := rfl

@[simp] theorem nanos_times (n : Nat) : (a.times n).nanos = a.nanos * n ⊓ greatest.nanos := rfl

theorem eq_iff_nanos_eq {a b : Span} : a = b ↔ a.nanos = b.nanos := by
  cases a
  cases b
  simp

end Time.Span

namespace Backoff

variable {base cap : Span} {b : Backoff}

/-- What a backoff with some bounds comes to, whatever failures it has counted and forgotten since. -/
inductive Reached (base cap : Span) : Backoff → Prop where
  | start : Reached base cap (start base cap)
  | fail {b : Backoff} (k : Key) (reached : Reached base cap b) : Reached base cap (b.fail k).2
  | reset {b : Backoff} (k : Key) (reached : Reached base cap b) : Reached base cap (b.reset k)

/-- No failure touches the bounds. -/
theorem Reached.bounds (reached : b.Reached base cap) : b.base = base ∧ b.max = cap.max base := by
  induction reached with
  | start => exact ⟨rfl, rfl⟩
  | fail k _ ih => exact ih
  | reset k _ ih => exact ih

/-! ## Factors -/

/-- The greatest factor. -/
def greatestFactor : Nat := UInt32.size - 1

theorem factor_of_few {n : UInt32} (few : n.toNat < 32) : factor n = 2 ^ n.toNat := by
  rw [factor, if_pos few]
  rfl

theorem factor_of_many {n : UInt32} (many : 32 ≤ n.toNat) : factor n = greatestFactor := by
  rw [factor, if_neg (Nat.not_lt.mpr many)]
  rfl

/-- From the thirty-second failure on the power is beyond every factor. -/
theorem greatestFactor_lt_pow {n : Nat} (many : 32 ≤ n) : greatestFactor < 2 ^ n := by
  calc greatestFactor < 2 ^ 32 := by decide
    _ ≤ 2 ^ n := Nat.pow_le_pow_right (by decide) many

theorem factor_pos (n : UInt32) : 0 < factor n := by
  rcases Nat.lt_or_ge n.toNat 32 with few | many
  · rw [factor_of_few few]
    exact Nat.two_pow_pos _
  · rw [factor_of_many many]
    decide

theorem factor_le_greatestFactor (n : UInt32) : factor n ≤ greatestFactor := by
  rcases Nat.lt_or_ge n.toNat 32 with few | many
  · rw [factor_of_few few]
    calc 2 ^ n.toNat ≤ 2 ^ 31 := Nat.pow_le_pow_right (by decide) (by omega)
      _ ≤ greatestFactor := by decide
  · exact (factor_of_many many).le

theorem factor_le_factor {m n : UInt32} (later : m ≤ n) : factor m ≤ factor n := by
  have later : m.toNat ≤ n.toNat := UInt32.le_iff_toNat_le.mp later
  rcases Nat.lt_or_ge n.toNat 32 with few | many
  · rw [factor_of_few few, factor_of_few (Nat.lt_of_le_of_lt later few)]
    exact Nat.pow_le_pow_right (by decide) later
  · rw [factor_of_many many]
    exact factor_le_greatestFactor m

/-! ## Delays -/

/-- What the product is cut to does not matter: the cap is no longer than the greatest span. -/
theorem Reached.nanos_delayFor (reached : b.Reached base cap) (base_fits : base.Fits)
    (cap_fits : cap.Fits) (n : UInt32) :
    (b.delayFor n).nanos = base.nanos * factor n ⊓ (base.nanos ⊔ cap.nanos) := by
  obtain ⟨least, most⟩ := reached.bounds
  simp only [Span.Fits] at base_fits cap_fits
  simp only [delayFor, least, most, Span.nanos_min, Span.nanos_max, Span.nanos_times]
  omega

theorem Reached.base_le_delayFor (reached : b.Reached base cap) (base_fits : base.Fits)
    (cap_fits : cap.Fits) (n : UInt32) : base.nanos ≤ (b.delayFor n).nanos := by
  have first : base.nanos ≤ base.nanos * factor n := Nat.le_mul_of_pos_right _ (factor_pos n)
  rw [reached.nanos_delayFor base_fits cap_fits]
  omega

theorem Reached.delayFor_le_delayFor (reached : b.Reached base cap) (base_fits : base.Fits)
    (cap_fits : cap.Fits) {m n : UInt32} (later : m ≤ n) :
    (b.delayFor m).nanos ≤ (b.delayFor n).nanos := by
  have rises : base.nanos * factor m ≤ base.nanos * factor n :=
    Nat.mul_le_mul_left _ (factor_le_factor later)
  rw [reached.nanos_delayFor base_fits cap_fits, reached.nanos_delayFor base_fits cap_fits]
  omega

theorem Reached.delayFor_le (reached : b.Reached base cap) (base_fits : base.Fits) (cap_fits : cap.Fits)
    (n : UInt32) : (b.delayFor n).nanos ≤ base.nanos ⊔ cap.nanos := by
  rw [reached.nanos_delayFor base_fits cap_fits]
  exact Nat.min_le_right _ _

/-! ## Doubling -/

/-- The first delay doubled a number of times, up to the cap. -/
def doubled (base cap : Span) (times : Nat) : Span :=
  ⟨base.nanos * 2 ^ times ⊓ (base.nanos ⊔ cap.nanos)⟩

/-- The cap is within reach of the greatest factor. -/
def InReach (base cap : Span) : Prop := base.nanos = 0 ∨ cap.nanos ≤ base.nanos * greatestFactor

instance : Decidable (InReach base cap) := inferInstanceAs (Decidable (_ ∨ _))

variable {times : Nat}

/-- What is as long as a cap within reach is cut to the cap, by whatever it is multiplied. -/
theorem nanos_doubled_of_inReach (inReach : InReach base cap) (many : 32 ≤ times) :
    (doubled base cap times).nanos = base.nanos * greatestFactor ⊓ (base.nanos ⊔ cap.nanos) := by
  have beyond : base.nanos * greatestFactor ≤ base.nanos * 2 ^ times :=
    Nat.mul_le_mul_left _ (greatestFactor_lt_pow many).le
  have first : base.nanos ≤ base.nanos * greatestFactor := Nat.le_mul_of_pos_right _ (by decide)
  rcases inReach with none | reaches
  · simp [doubled, none]
  · simp only [doubled]
    omega

/-- A cap out of reach is longer than the longest delay, and so is what is meant. -/
theorem lt_nanos_doubled (short : ¬ InReach base cap) (many : 32 ≤ times) :
    base.nanos * greatestFactor < (doubled base cap times).nanos := by
  simp only [InReach, not_or, Nat.not_le] at short
  have some : 0 < base.nanos := Nat.pos_of_ne_zero short.1
  have beyond : base.nanos * greatestFactor < base.nanos * 2 ^ times :=
    Nat.mul_lt_mul_of_pos_left (greatestFactor_lt_pow many) some
  simp only [doubled]
  omega

/-- After any failures and resets, the delay after `n` failures in a row is the first one times `2 ^ n`,
cut to the cap, if and only if there are less than thirty-two of them or the cap is within reach. Otherwise
it is the first one times the greatest factor, which is too short. -/
theorem Reached.doubled_iff (reached : b.Reached base cap) (base_fits : base.Fits) (cap_fits : cap.Fits)
    (n : UInt32) :
    (b.delayFor n = doubled base cap n.toNat ↔ n.toNat < 32 ∨ InReach base cap) ∧
    (32 ≤ n.toNat → ¬ InReach base cap →
      (b.delayFor n).nanos = base.nanos * greatestFactor ∧
        (b.delayFor n).nanos < (doubled base cap n.toNat).nanos) := by
  have delay := reached.nanos_delayFor base_fits cap_fits n
  have stops (many : 32 ≤ n.toNat) (short : ¬ InReach base cap) :
      (b.delayFor n).nanos = base.nanos * greatestFactor := by
    simp only [InReach, not_or, Nat.not_le] at short
    rw [delay, factor_of_many many]
    omega
  refine ⟨⟨fun same => ?_, ?_⟩, fun many short => ⟨stops many short, ?_⟩⟩
  · by_contra neither
    rw [not_or, Nat.not_lt] at neither
    have longer := lt_nanos_doubled neither.2 neither.1
    rw [← same, stops neither.1 neither.2] at longer
    exact absurd longer (lt_irrefl _)
  · rintro (few | inReach)
    · rw [Span.eq_iff_nanos_eq, delay, factor_of_few few, doubled]
    · rcases Nat.lt_or_ge n.toNat 32 with few | many
      · rw [Span.eq_iff_nanos_eq, delay, factor_of_few few, doubled]
      · rw [Span.eq_iff_nanos_eq, delay, factor_of_many many, nanos_doubled_of_inReach inReach many]
  · rw [stops many short]
    exact lt_nanos_doubled short many

/-- A first delay of a millisecond, and a cap of more than a hundred days. -/
def patient : Backoff := start (.millis 1) (.seconds 10000000)

/-- The delay doubles thirty-one times, and stays the same after the thirty-second. -/
theorem doubled_iff_patient : ∃ b : Backoff, b.Reached (.millis 1) (.seconds 10000000) ∧
    b.failuresOf ⟨"dev", "git"⟩ = 1 ∧ b.delayFor 31 = doubled (.millis 1) (.seconds 10000000) 31 ∧
    (b.delayFor 33).nanos = (Span.millis 1).nanos * greatestFactor := by
  have base_fits : (Span.millis 1).Fits := by decide
  have cap_fits : (Span.seconds 10000000).Fits := by decide
  have short : ¬ InReach (.millis 1) (.seconds 10000000) := by decide
  have reached : ((patient.reset ⟨"dev", "git"⟩).fail ⟨"dev", "git"⟩).2.Reached (.millis 1)
      (.seconds 10000000) := .fail _ (.reset _ .start)
  exact ⟨_, reached, by decide +kernel,
    (reached.doubled_iff base_fits cap_fits 31).1.mpr (.inl (by decide)),
    ((reached.doubled_iff base_fits cap_fits 33).2 (by decide) short).1⟩

/-- After thirty-three failures in a row this backoff is to wait for the thirty-third power of two in
milliseconds, which the cap allows, and waits for half of it. -/
theorem exists_undoubled : ∃ base cap n, base.Fits ∧ cap.Fits ∧
    (start base cap).delayFor n ≠ doubled base cap n.toNat ∧
    (start base cap).delayFor n = .millis 4294967295 ∧
    doubled base cap n.toNat = .millis 8589934592 :=
  ⟨.millis 1, .seconds 10000000, 33, by decide, by decide, by decide, by decide, by decide⟩

end Backoff

end TokenSteward
