import TokenSteward.Proofs.Json.Parts
import TokenSteward.Resource.Timestamp

/-! # Written times are read back

A timestamp is written as its nine numbers. Each of them has its place, and all are in range, so each is
read at its place and the reading that they make is the one that was written.
-/

namespace TokenSteward.Resource

open TokenSteward.Json TokenSteward.Json.Reader

namespace Timestamp

/-- Written parts lead from one reading to another, each in its turn. -/
inductive Leads : List (String × Reader (Reading → Reading)) → List Value → Reading → Reading → Prop where
  | nil (r : Reading) : Leads [] [] r r
  | cons {name : String} {part : Reader (Reading → Reading)} {set : Reading → Reading} {v : Value}
      {parts : List (String × Reader (Reading → Reading))} {vs : List Value} {r r' : Reading}
      (reads : part.Reads v set) (opens : Opens v) (later : Leads parts vs (set r) r') :
      Leads ((name, part) :: parts) (v :: vs) r r'

variable {parts : List (String × Reader (Reading → Reading))} {vs : List Value} {r r' : Reading}

theorem readParts_later (leads : Leads parts vs r r') (index : Nat) (s : Symbols) :
    readParts parts (index + 1) r ((laterItems vs).map some ++ some ']' :: s) =
      .ok (r', some ']' :: s) := by
  induction leads generalizing index with
  | nil r => rfl
  | @cons name part set v parts vs r r' reads opens later ih =>
    have next := nextItem_later (fronts_of_opens opens) ((laterItems vs).map some ++ some ']' :: s)
    have item := reads _ (endsValue_laterItems vs s)
    have text : (laterItems (v :: vs)).map some ++ some ']' :: s =
        some ',' :: (v.text.map some ++ ((laterItems vs).map some ++ some ']' :: s)) := by
      simp [laterItems]
    have other : (index + 1 == 0) = false := rfl
    rw [text, readParts]
    simp only [other, next, atValue, item, inside, ih, Bind.bind, Except.bind, if_true]

/-- The parts of a timestamp are read up to the end of the list. -/
theorem readParts_first (leads : Leads parts vs r r') (s : Symbols) :
    readParts parts 0 r ((Value.itemsText vs).map some ++ some ']' :: s) = .ok (r', some ']' :: s) := by
  cases leads with
  | nil r => rfl
  | @cons name part set v parts vs r r' reads opens later =>
    have next := nextItem_first (fronts_of_opens opens) ((laterItems vs).map some ++ some ']' :: s)
    have item := reads _ (endsValue_laterItems vs s)
    have text : (Value.itemsText (v :: vs)).map some ++ some ']' :: s =
        v.text.map some ++ ((laterItems vs).map some ++ some ']' :: s) := by
      simp [itemsText_cons]
    rw [text, readParts]
    simp only [Nat.reduceBEq, next, atValue, item, inside, readParts_later later, Bind.bind, Except.bind,
      if_true]

/-- The bounds within which the parts of a timestamp lie. -/
structure Bounds (r : Reading) : Prop where
  year : -9999 ≤ r.year ∧ r.year ≤ 9999
  dayOfYear : 1 ≤ r.dayOfYear ∧ r.dayOfYear ≤ 366
  hour : 0 ≤ r.hour ∧ r.hour ≤ 23
  minute : 0 ≤ r.minute ∧ r.minute ≤ 59
  second : 0 ≤ r.second ∧ r.second ≤ 59
  nanosecond : 0 ≤ r.nanosecond ∧ r.nanosecond ≤ 999999999
  hours : -25 ≤ r.hours ∧ r.hours ≤ 25
  minutes : -59 ≤ r.minutes ∧ r.minutes ≤ 59
  seconds : -59 ≤ r.seconds ∧ r.seconds ≤ 59

theorem bounds_of_inRange (inRange : r.outOfRange? = none) : Bounds r := by
  have days : daysIn r.year ≤ 366 := by
    unfold daysIn
    split <;> decide
  unfold Reading.outOfRange? at inRange
  repeat' split at inRange
  all_goals first
    | contradiction
    | constructor <;> omega

theorem ofReading_reading (t : Timestamp) : ofReading t.reading = .ok t := by
  obtain ⟨r, inRange, isAligned⟩ := t
  unfold ofReading
  split
  · next part found =>
    rw [isAligned, inRange] at found
    contradiction
  · congr 2

theorem leads_reading (bounds : Bounds r) : Leads partReaders
    ([r.year, r.dayOfYear, r.hour, r.minute, r.second, r.nanosecond, r.hours, r.minutes,
      r.seconds].map fun n => .number (.whole n)) {} r := by
  have number (wanted : String) {least greatest n : Int} (inside : least ≤ n ∧ n ≤ greatest)
      (set : Int → Reading → Reading) (lower : -4294967296 ≤ least) (upper : greatest ≤ 4294967296) :
      ((whole wanted least greatest).map set).Reads (.number (.whole n)) (set n) := by
    have minimum : Int64.minValue.toInt ≤ -4294967296 := by decide
    have maximum : (4294967296 : Int) ≤ maxWord := by decide
    exact (reads_whole wanted inside (by omega) (by omega)).map set
  obtain ⟨year, day, hour, minute, second, nanosecond, hours, minutes, seconds⟩ := bounds
  refine .cons (number "i32" (by omega) _ (by decide) (by decide)) (.whole _) ?_
  refine .cons (number "u16" (by omega) _ (by decide) (by decide)) (.whole _) ?_
  refine .cons (number "u8" (by omega) _ (by decide) (by decide)) (.whole _) ?_
  refine .cons (number "u8" (by omega) _ (by decide) (by decide)) (.whole _) ?_
  refine .cons (number "u8" (by omega) _ (by decide) (by decide)) (.whole _) ?_
  refine .cons (number "u32" (by omega) _ (by decide) (by decide)) (.whole _) ?_
  refine .cons (number "i8" (by omega) _ (by decide) (by decide)) (.whole _) ?_
  refine .cons (number "i8" (by omega) _ (by decide) (by decide)) (.whole _) ?_
  refine .cons (number "i8" (by omega) _ (by decide) (by decide)) (.whole _) ?_
  exact .nil _

/-- A written timestamp is read back. -/
theorem reads_toValue (t : Timestamp) : reader.Reads t.toValue t := by
  intro s _
  have leads := readParts_first (leads_reading (bounds_of_inRange t.inRange)) s
  have text : t.toValue.text.map some ++ s = some '[' :: ((Value.itemsText
      ([t.reading.year, t.reading.dayOfYear, t.reading.hour, t.reading.minute, t.reading.second,
        t.reading.nanosecond, t.reading.hours, t.reading.minutes, t.reading.seconds].map
          fun n => .number (.whole n))).map some ++ some ']' :: s) := by
    simp [toValue, Value.text]
  have ends : endItems (some ']' :: s) = .ok s := rfl
  rw [text]
  simp only [reader, skipGap_cons (x := some '[') rfl, leads, ofReading_reading, ends, atValue, Bind.bind,
    Except.bind]

end Timestamp

end TokenSteward.Resource
