import TokenSteward.Json.Reader

/-! # Points in time with an offset

A timestamp keeps the local date and time of day together with the offset from UTC it was given
in. It is written as nine numbers: year, day of the year, time of day, nanosecond and the three
parts of the offset. Only dates of the proleptic Gregorian calendar within four-digit years exist,
and the parts of an offset never point in opposite directions.
-/

namespace TokenSteward.Resource

open TokenSteward.Json

/-! ## The calendar -/

/-- Whether a year has 366 days. -/
def isLeap (year : Int) : Bool := year % 4 = 0 && (year % 100 ≠ 0 || year % 400 = 0)

/-- The number of days of a year. -/
def daysIn (year : Int) : Int := if isLeap year then 366 else 365

/-- The days before the first day of a year, counted from the first day of year 1. -/
def daysBefore (year : Int) : Int :=
  let past := year - 1
  365 * past + past / 4 - past / 100 + past / 400

/-- The day on which counting of seconds starts, 1 January 1970, counted in the same way. -/
def epochDay : Int := daysBefore 1970

/-- The year that a day lies in, searched in a year near the quotient by the mean length. -/
def yearOf (day : Int) : Int :=
  let guess := day * 400 / 146097 + 1
  if day < daysBefore guess then guess - 1
  else if daysBefore (guess + 1) ≤ day then guess + 1
  else guess

/-! ## Readings -/

/-- The nine numbers of a timestamp that is still to be checked. -/
structure Reading where
  year : Int := 0
  dayOfYear : Int := 0
  hour : Int := 0
  minute : Int := 0
  second : Int := 0
  nanosecond : Int := 0
  hours : Int := 0
  minutes : Int := 0
  seconds : Int := 0
deriving DecidableEq, Repr

/-- Whether two numbers point in opposite directions. -/
def areOpposed (a b : Int) : Bool := (0 < a && b < 0) || (a < 0 && 0 < b)

namespace Reading

/-- The reading with each part of its offset turned to the direction of the greatest part before
it. -/
def aligned (r : Reading) : Reading :=
  let minutes := if areOpposed r.hours r.minutes then -r.minutes else r.minutes
  let seconds :=
    if areOpposed r.hours r.seconds || areOpposed minutes r.seconds then -r.seconds else r.seconds
  { r with minutes := minutes, seconds := seconds }

/-- Parts that point in one direction stay as they are. -/
theorem aligned_aligned (r : Reading) : r.aligned.aligned = r.aligned := by
  simp only [aligned, areOpposed, Bool.or_eq_true, Bool.and_eq_true, decide_eq_true_eq, mk.injEq,
    true_and]
  constructor <;> repeat' split
  all_goals omega

/-- The first part that is out of range, if any, in the order in which they are checked. -/
def outOfRange? (r : Reading) : Option String :=
  if r.year < -9999 ∨ 9999 < r.year then some "year"
  else if r.dayOfYear < 1 ∨ daysIn r.year < r.dayOfYear then some "ordinal"
  else if r.hour < 0 ∨ 23 < r.hour then some "hour"
  else if r.minute < 0 ∨ 59 < r.minute then some "minute"
  else if r.second < 0 ∨ 59 < r.second then some "second"
  else if r.nanosecond < 0 ∨ 999999999 < r.nanosecond then some "nanosecond"
  else if r.hours < -25 ∨ 25 < r.hours then some "offset hour"
  else if r.minutes < -59 ∨ 59 < r.minutes then some "offset minute"
  else if r.seconds < -59 ∨ 59 < r.seconds then some "offset second"
  else none

end Reading

/-- A local date and time with its offset: nine numbers in range, the parts of the offset in one
direction. -/
structure Timestamp where
  reading : Reading
  inRange : reading.outOfRange? = none
  isAligned : reading.aligned = reading
deriving DecidableEq, Repr

namespace Timestamp

/-- The start of 1 January 1970 in UTC. -/
def epoch : Timestamp := ⟨{ year := 1970, dayOfYear := 1 }, by decide, by decide⟩

instance : Inhabited Timestamp := ⟨epoch⟩

/-- The timestamp of nine numbers. -/
def ofReading (r : Reading) : Except String Timestamp :=
  match range : r.aligned.outOfRange? with
  | some part => .error ("invalid " ++ part ++ ", expected an in-range value")
  | none => .ok ⟨r.aligned, range, r.aligned_aligned⟩

/-- The nine numbers of a number of seconds since the epoch, in UTC. -/
def readingOf (seconds : Int) : Reading :=
  let day := epochDay + seconds / 86400
  let rest := seconds % 86400
  let year := yearOf day
  { year := year
    dayOfYear := day - daysBefore year + 1
    hour := rest / 3600
    minute := rest / 60 % 60
    second := rest % 60 }

/-- The timestamp in UTC of a number of seconds since the epoch; the epoch itself if the year has
more than four digits. -/
def ofSeconds (seconds : Int) : Timestamp :=
  match ofReading (readingOf seconds) with
  | .ok t => t
  | .error _ => epoch

/-- The written form of a timestamp. -/
def toValue (t : Timestamp) : Value :=
  let r := t.reading
  .array ([r.year, r.dayOfYear, r.hour, r.minute, r.second, r.nanosecond, r.hours, r.minutes,
    r.seconds].map fun n => .number (.whole n))

/-- The parts of a written timestamp in order: what each is called, the kind and the bounds of its
number, and where it goes. -/
def partReaders : List (String × Reader (Reading → Reading)) :=
  let byte := Reader.whole "u8" 0 255
  let signedByte := Reader.whole "i8" (-128) 127
  [("year", (Reader.whole "i32" (-2147483648) 2147483647).map fun n r => { r with year := n }),
    ("day of year", (Reader.whole "u16" 0 65535).map fun n r => { r with dayOfYear := n }),
    ("hour", byte.map fun n r => { r with hour := n }),
    ("minute", byte.map fun n r => { r with minute := n }),
    ("second", byte.map fun n r => { r with second := n }),
    ("nanosecond", (Reader.whole "u32" 0 4294967295).map fun n r => { r with nanosecond := n }),
    ("offset hours", signedByte.map fun n r => { r with hours := n }),
    ("offset minutes", signedByte.map fun n r => { r with minutes := n }),
    ("offset seconds", signedByte.map fun n r => { r with seconds := n })]

/-- Reads the parts of a timestamp from an index on. -/
def readParts : List (String × Reader (Reading → Reading)) → Nat → Reading → Reader Reading
  | [], _, reading, s => .ok (reading, s)
  | (name, r) :: rest, index, reading, s => do
    let (more, s) ← atValue (Reader.nextItem (index == 0) s)
    if more then
      let (set, s) ← inside (.item index) (r s)
      readParts rest (index + 1) (set reading) s
    else here (.refused ("expected " ++ name))

/-- Reads a timestamp. -/
def reader : Reader Timestamp := fun s =>
  match skipGap s with
  | some '[' :: s => do
    let (reading, s) ← readParts partReaders 0 {} s
    match ofReading reading with
    | .error message => here (.refused message)
    | .ok t =>
      let rest ← atValue (Reader.endItems s)
      .ok (t, rest)
  | s => unwanted ("an " ++ marked "OffsetDateTime") s

end Timestamp

end TokenSteward.Resource
