import TokenSteward.Proofs.Delay.Admitted

/-! # Lengths of time, set and read

A length of time that is set is read back without what is finer than its unit. The setting holds the whole
units as a number of sixty-four bits without a sign, and what is read of it is made from a number of
sixty-four bits with one. Whole seconds always fit both. Whole milliseconds need not: from the least number
that only the setting has room for, what is read is the greatest length. A length that is less than nothing
leaves no unit, and settings with it are refused.
-/

namespace TokenSteward

open TokenSteward.Time

namespace Time.Shift

/-- The whole seconds of a shift are a signed number of sixty-four bits. -/
def Fits (t : Shift) : Prop :=
  Int64.minValue.toInt ≤ t.wholeSeconds ∧ t.wholeSeconds ≤ Int64.maxValue.toInt

instance (t : Shift) : Decidable t.Fits := inferInstanceAs (Decidable (_ ∧ _))

/-- What is left of a shift when all is cut off that is finer than a unit. -/
structure Cut (unit : Int) (t r : Shift) : Prop where
  whole : unit ∣ r.nanos
  lower : r.nanos ≤ t.nanos
  upper : t.nanos < r.nanos + unit

end Time.Shift

namespace Settings

/-- The lengths of time among the settings. -/
inductive Length where
  | resyncPeriod
  | deadline
  | recheck
  | backoffBase
  | backoffMax
deriving DecidableEq

namespace Length

/-- The nanoseconds of the unit in which a length is kept. -/
def unit : Length → Int
  | .backoffBase => 1000000
  | _ => 1000000000

/-- The number that is kept for a length. -/
def setting : Length → Settings → UInt64
  | .resyncPeriod, s => s.resyncPeriodSecs
  | .deadline, s => s.deadlineSecs
  | .recheck, s => s.recheckSecs
  | .backoffBase, s => s.backoffBaseMillis
  | .backoffMax, s => s.backoffMaxSecs

/-- The settings with another length. The bounds of the delays are set together. -/
def set (other t : Shift) : Length → Settings → Settings
  | .resyncPeriod, s => s.withResyncPeriod t
  | .deadline, s => s.withDeadline t
  | .recheck, s => s.withRecheck t
  | .backoffBase, s => s.withBackoff t other
  | .backoffMax, s => s.withBackoff other t

/-- The length that is read from settings. -/
def get : Length → Settings → Shift
  | .resyncPeriod, s => s.resyncPeriod
  | .deadline, s => s.deadline
  | .recheck, s => s.recheck
  | .backoffBase, s => s.backoffBase
  | .backoffMax, s => s.backoffMax

/-- The whole units of a shift. -/
def count (l : Length) (t : Shift) : Int := t.nanos / l.unit

variable {l : Length} {s : Settings} {other t u : Shift}

theorem unit_pos (l : Length) : 0 < l.unit := by
  cases l <;> decide

theorem setting_set (l : Length) (s : Settings) (other t : Shift) :
    l.setting (l.set other t s) = toSetting (t.nanos.tdiv l.unit) := by
  cases l <;> rfl

theorem nanos_get (l : Length) (s : Settings) :
    (l.get s).nanos = ((l.setting s).toNat ⊓ greatestCount : Nat) * l.unit := by
  cases l <;> rfl

theorem setting_mem (l : Length) (s : Settings) : l.setting s ∈ s.positives.map (·.2) := by
  cases l <;> simp [setting, positives]

theorem count_nonneg (l : Length) (sound : 0 ≤ t.nanos) : 0 ≤ l.count t :=
  Int.ediv_nonneg sound l.unit_pos.le

theorem count_le_count (l : Length) (longer : t.nanos ≤ u.nanos) : l.count t ≤ l.count u :=
  Int.ediv_le_ediv l.unit_pos longer

/-- Whole seconds are a number that lengths of time are made from. -/
theorem count_le_of_fits (fits : t.Fits) (sound : 0 ≤ t.nanos) (coarse : l ≠ .backoffBase) :
    l.count t ≤ greatestCount := by
  have seconds : l.count t = t.wholeSeconds := by
    rw [Shift.wholeSeconds, Int.tdiv_eq_ediv_of_nonneg sound]
    cases l <;> first | rfl | contradiction
  rw [seconds]
  exact fits.2

end Length

/-! ## What is set -/

theorem greatestCount_lt_size : greatestCount < UInt64.size := by decide

theorem toNat_toSetting {n : Int} (sound : 0 ≤ n) (small : n < UInt64.size) :
    ((toSetting n).toNat : Int) = n := by
  rw [toSetting, if_pos ⟨sound, small⟩, UInt64.toNat_ofNat_of_lt' (by omega)]
  exact Int.toNat_of_nonneg sound

theorem toSetting_of_nonpos {n : Int} (none : n ≤ 0) : toSetting n = 0 := by
  rcases Int.lt_or_eq_of_le none with negative | rfl
  · exact if_neg fun fits => by omega
  · rfl

/-- Settings of which one is zero that is to be positive are refused. -/
theorem validate_of_zero {s : Settings} (zero : 0 ∈ s.positives.map (·.2)) :
    ∃ name, s.validate = .error (.nonPositive name) := by
  obtain ⟨p, listed, none⟩ := List.mem_map.mp zero
  unfold validate
  cases found : s.positives.find? (·.2 == 0) with
  | some q => exact ⟨q.1, rfl⟩
  | none => exact absurd (List.find?_eq_none.mp found p listed) (by simp [none])

/-! ## What is read -/

namespace Length

variable {l : Length} {s : Settings} {other t u : Shift}

theorem count_lt_size (fits : t.Fits) (sound : 0 ≤ t.nanos)
    (room : l = .backoffBase → l.count t < UInt64.size) : l.count t < UInt64.size := by
  by_cases fine : l = .backoffBase
  · exact room fine
  · have whole := count_le_of_fits fits sound fine
    have less := greatestCount_lt_size
    omega

/-- The setting holds the whole units if it has room for them. -/
theorem toNat_setting_set (s : Settings) (other : Shift) (sound : 0 ≤ t.nanos)
    (room : l.count t < UInt64.size) : ((l.setting (l.set other t s)).toNat : Int) = l.count t := by
  rw [setting_set, Int.tdiv_eq_ediv_of_nonneg sound]
  exact toNat_toSetting (l.count_nonneg sound) room

/-- What is read are the whole units, up to the greatest count. -/
theorem nanos_get_set (s : Settings) (other : Shift) (sound : 0 ≤ t.nanos)
    (room : l.count t < UInt64.size) :
    (l.get (l.set other t s)).nanos = (l.count t ⊓ greatestCount) * l.unit := by
  rw [nanos_get, Nat.cast_min, toNat_setting_set s other sound room]

/-- What is read of a length that was set is the length, cut to whole units. Only the first delay can have
more units than a length is made from; up to the greatest setting such a delay is read as the greatest
length. A longer length is not read as a shorter one, and a length that is less than nothing is refused. -/
structure Agrees (l : Length) (s : Settings) (other : Shift) : Prop where
  cut : ∀ t : Shift, t.Fits → 0 ≤ t.nanos → (l = .backoffBase → l.count t ≤ greatestCount) →
    t.Cut l.unit (l.get (l.set other t s))
  capped : ∀ t : Shift, greatestCount < l.count t → l.count t < UInt64.size →
    (l.get (l.set other t s)).nanos = greatestCount * l.unit
  kept : ∀ t : Shift, t.Fits → 0 ≤ t.nanos → (l = .backoffBase → l.count t < UInt64.size) →
    ((l.setting (l.set other t s)).toNat : Int) = l.count t
  rises : ∀ t u : Shift, t.Fits → u.Fits → 0 ≤ t.nanos → t.nanos ≤ u.nanos →
    (l = .backoffBase → l.count u < UInt64.size) →
    (l.get (l.set other t s)).nanos ≤ (l.get (l.set other u s)).nanos
  refused : ∀ t : Shift, t.nanos < 0 → ∃ name, (l.set other t s).validate = .error (.nonPositive name)

theorem cut_get_set (s : Settings) (other : Shift) (sound : 0 ≤ t.nanos) (few : l.count t ≤ greatestCount) :
    t.Cut l.unit (l.get (l.set other t s)) := by
  have less := greatestCount_lt_size
  have read : (l.get (l.set other t s)).nanos = l.count t * l.unit := by
    rw [nanos_get_set s other sound (by omega), min_eq_left few]
  refine ⟨?_, ?_, ?_⟩
  · rw [read]
    exact Int.dvd_mul_left _ _
  · rw [read]
    exact Int.ediv_mul_le _ l.unit_pos.ne'
  · rw [read]
    calc
      t.nanos < (l.count t + 1) * l.unit := Int.lt_ediv_add_one_mul_self _ l.unit_pos
      _ = l.count t * l.unit + l.unit := by rw [Int.add_mul, Int.one_mul]

theorem nonneg_of_count (many : greatestCount < l.count t) : 0 ≤ t.nanos := by
  by_contra negative
  have none : l.count t < 0 := Int.ediv_neg_of_neg_of_pos (by omega) l.unit_pos
  omega

/-- Every length agrees with what was set, whatever the settings are otherwise and whatever the other
bound of the delays is. -/
theorem agrees_get_set (l : Length) (s : Settings) (other : Shift) : l.Agrees s other where
  cut t fits sound few := by
    by_cases fine : l = .backoffBase
    · exact cut_get_set s other sound (few fine)
    · exact cut_get_set s other sound (count_le_of_fits fits sound fine)
  capped t many room := by
    rw [nanos_get_set s other (nonneg_of_count many) room, min_eq_right many.le]
  kept t fits sound room := toNat_setting_set s other sound (count_lt_size fits sound room)
  rises t u fits fits' sound longer room := by
    -- A setting that has room for the longer one has room for both.
    have sound' := sound.trans longer
    have room' := count_lt_size fits' sound' room
    have more := l.count_le_count longer
    rw [nanos_get_set s other sound (more.trans_lt room'), nanos_get_set s other sound' room']
    exact Int.mul_le_mul_of_nonneg_right (min_le_min_right _ more) l.unit_pos.le
  refused t negative := by
    -- Less than a unit below nothing is cut to nothing, and nothing is refused just as well.
    have turned : 0 ≤ (-t.nanos).tdiv l.unit := Int.tdiv_nonneg (by omega) l.unit_pos.le
    rw [Int.neg_tdiv] at turned
    have zero : l.setting (l.set other t s) = 0 := by
      rw [setting_set, toSetting_of_nonpos (by omega)]
    exact validate_of_zero (zero ▸ setting_mem l (l.set other t s))

/-- The least delay with more milliseconds than a length is made from. -/
def uncounted : Shift := .millis (greatestCount + 1)

/-- The least delay with more milliseconds than a setting has room for. -/
def unkept : Shift := .millis UInt64.size

/-- The longest time there is. -/
def longest : Shift := ⟨Int64.maxValue.toInt * 1000000000 + 999999999⟩

/-- The longest time is cut to whole seconds, a first delay is capped, and less than nothing is refused. -/
theorem agrees_get_set_standard :
    longest.Fits ∧ longest.Cut 1000000000 (backoffMax.get (backoffMax.set uncounted longest standard)) ∧
      (backoffBase.get (backoffBase.set longest uncounted standard)).nanos = greatestCount * 1000000 ∧
      (backoffBase.get (backoffBase.set longest ⟨1999999⟩ standard)).nanos ≤
        (backoffBase.get (backoffBase.set longest uncounted standard)).nanos ∧
      ∃ name, (recheck.set longest ⟨-1⟩ standard).validate = .error (.nonPositive name) :=
  have base := agrees_get_set .backoffBase standard longest
  have few : backoffBase.count uncounted < UInt64.size := by decide
  have cap := agrees_get_set .backoffMax standard uncounted
  ⟨by decide, cap.cut longest (by decide) (by decide) nofun,
    base.capped uncounted (by decide) few,
    base.rises ⟨1999999⟩ uncounted (by decide) (by decide) (by decide) (by decide) fun _ => few,
    (agrees_get_set .recheck standard longest).refused ⟨-1⟩ (by decide)⟩

/-- A first delay of more milliseconds than a length is made from is not read as it was set, and one of more
than a setting has room for is read as a shorter one. -/
theorem not_cut_uncounted : uncounted.Fits ∧ unkept.Fits ∧ uncounted.nanos < unkept.nanos ∧
    ¬uncounted.Cut 1000000 (backoffBase.get (backoffBase.set longest uncounted standard)) ∧
    (backoffBase.get (backoffBase.set longest unkept standard)).nanos <
      (backoffBase.get (backoffBase.set longest uncounted standard)).nanos := by
  refine ⟨by decide, by decide, by decide, fun cut => ?_, by decide⟩
  exact absurd cut.upper (by decide)

end Length

end Settings

end TokenSteward
