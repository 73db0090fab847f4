import ClusterLog.Calendar.Date

/-!
# Points in time

A date with a time of day to the second.  Points in time are ordered by the seconds since the first
day of year 1.
-/

namespace ClusterLog.Calendar

/-- A date with a time of day. -/
structure DateTime where
  date : Date
  hour : Nat
  minute : Nat
  second : Nat
  valid : hour < 24 ∧ minute < 60 ∧ second < 60
deriving DecidableEq

namespace DateTime

/-- Midnight is a time of day. -/
theorem midnight_valid : 0 < 24 ∧ 0 < 60 ∧ 0 < 60 := by
  decide

/-- The point in time with six numbers, if there is one. -/
def of? (year month day hour minute second : Nat) : Option DateTime := do
  let date ← Date.of? year month day
  if valid : hour < 24 ∧ minute < 60 ∧ second < 60 then
    some ⟨date, hour, minute, second, valid⟩
  else
    none

/-- The seconds since midnight. -/
def secondOfDay (time : DateTime) : Nat :=
  (time.hour * 60 + time.minute) * 60 + time.second

/-- The seconds since the first day of year 1. -/
def seconds (time : DateTime) : Nat :=
  time.date.number * 86400 + time.secondOfDay

instance : LT DateTime := ⟨fun earlier later => earlier.seconds < later.seconds⟩

instance : LE DateTime := ⟨fun earlier later => earlier.seconds ≤ later.seconds⟩

instance (first second : DateTime) : Decidable (first < second) :=
  inferInstanceAs (Decidable (first.seconds < second.seconds))

instance (first second : DateTime) : Decidable (first ≤ second) :=
  inferInstanceAs (Decidable (first.seconds ≤ second.seconds))

/-- The earlier of two points in time. -/
def earlier (first second : DateTime) : DateTime :=
  if second < first then second else first

/-- The later of two points in time. -/
def later (first second : DateTime) : DateTime :=
  if first < second then second else first

/-- The same time of day a number of days before, unless the calendar has no such day. -/
def minusDays? (time : DateTime) (days : Int) : Option DateTime :=
  let number := (time.date.number : Int) - days
  if 0 ≤ number then
    (Date.ofNumber? number.toNat).map fun date => { time with date }
  else
    none

/-- The beginning of the hour. -/
def hourStart (time : DateTime) : DateTime :=
  { time with minute := 0, second := 0, valid := ⟨time.valid.1, by decide, by decide⟩ }

end DateTime

end ClusterLog.Calendar
