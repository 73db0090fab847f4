/-!
# Dates

Days of the Gregorian calendar in the years 1 to 9999, and their numbers counted from the first day
of year 1.  `Date.ofNumber?` finds the date with a given number, if it lies in those years.
-/

namespace ClusterLog.Calendar

/-- The last year that a date can have. -/
def maxYear : Nat := 9999

/-- Every fourth year, except the centuries that 400 does not divide. -/
def isLeap (year : Nat) : Bool :=
  year % 4 == 0 && (year % 100 != 0 || year % 400 == 0)

/-- The days before a month in a year that is no leap year. -/
def daysBeforeMonthInCommonYear : Nat → Nat
  | 0 | 1 => 0
  | 2 => 31
  | 3 => 59
  | 4 => 90
  | 5 => 120
  | 6 => 151
  | 7 => 181
  | 8 => 212
  | 9 => 243
  | 10 => 273
  | 11 => 304
  | 12 => 334
  | _ => 365

/-- The days of a year before the first of a month; month 13 gives the days of the year. -/
def daysBeforeMonth (year month : Nat) : Nat :=
  daysBeforeMonthInCommonYear month + if isLeap year && 2 < month then 1 else 0

/-- The days of a month. -/
def daysInMonth (year month : Nat) : Nat :=
  daysBeforeMonth year (month + 1) - daysBeforeMonth year month

/-- The days before the first of January of a year, counted from year 1. -/
def daysBeforeYear (year : Nat) : Nat :=
  let past := year - 1
  past * 365 + past / 4 - past / 100 + past / 400

/-- Whether three numbers name a day of the calendar. -/
def IsDate (year month day : Nat) : Prop :=
  1 ≤ year ∧ year ≤ maxYear ∧ 1 ≤ month ∧ month ≤ 12 ∧ 1 ≤ day ∧ day ≤ daysInMonth year month

instance (year month day : Nat) : Decidable (IsDate year month day) := by
  unfold IsDate
  infer_instance

/-- A day of the Gregorian calendar in the years 1 to 9999. -/
structure Date where
  year : Nat
  month : Nat
  day : Nat
  valid : IsDate year month day
deriving DecidableEq

namespace Date

/-- The date with a year, month and day, if there is one. -/
def of? (year month day : Nat) : Option Date :=
  if valid : IsDate year month day then some ⟨year, month, day, valid⟩ else none

/-- The number of a date; the first of January of year 1 has number 0. -/
def number (date : Date) : Nat :=
  daysBeforeYear date.year + daysBeforeMonth date.year date.month + (date.day - 1)

/-- The greatest year up to `bound` that begins no later than the day with a number. -/
def yearUpTo (number : Nat) : Nat → Nat
  | 0 => 0
  | bound + 1 => if daysBeforeYear (bound + 1) ≤ number then bound + 1 else yearUpTo number bound

/-- The greatest month up to `bound` that begins no later than a day of the year. -/
def monthUpTo (year dayOfYear : Nat) : Nat → Nat
  | 0 => 0
  | bound + 1 =>
    if daysBeforeMonth year (bound + 1) ≤ dayOfYear then bound + 1
    else monthUpTo year dayOfYear bound

/-- The date with a number.  No year is shorter than 365 days, which bounds the search. -/
def ofNumber? (number : Nat) : Option Date :=
  let year := yearUpTo number (number / 365 + 1)
  let dayOfYear := number - daysBeforeYear year
  let month := monthUpTo year dayOfYear 12
  of? year month (dayOfYear - daysBeforeMonth year month + 1)

end Date

end ClusterLog.Calendar
