import ClusterLog.Proofs.Calendar.Order

/-!
# Days before a point in time

The calendar begins with the first day of year 1 and has no gap behind it.  So
there is a point in time a number of days before another one exactly if so many
days have passed since the calendar began, and then it is found.
-/

namespace ClusterLog.Calendar

/-! ## Dates of numbers -/

/-- The last place up to a bound that begins no later than a number. -/
def lastBegun (begins : Nat → Nat) (number : Nat) : Nat → Nat
  | 0 => 0
  | bound + 1 =>
    if begins (bound + 1) ≤ number then bound + 1
    else lastBegun begins number bound

section LastBegun

variable {begins : Nat → Nat} {number bound : Nat}

theorem lastBegun_bounds (first : begins 1 ≤ number) (positive : 1 ≤ bound) :
    1 ≤ lastBegun begins number bound ∧
      lastBegun begins number bound ≤ bound := by
  induction bound with
  | zero => omega
  | succ bound ih =>
      rw [lastBegun]
      split
      · omega
      · rename_i later
        cases bound with
        | zero => exact absurd first later
        | succ bound =>
            have found := ih (by omega)
            omega

/-- The places behind the last one that has begun begin later. -/
theorem lt_of_lastBegun_lt {place : Nat}
    (behind : lastBegun begins number bound < place) (atMost : place ≤ bound) :
    number < begins place := by
  induction bound with
  | zero => omega
  | succ bound ih =>
      rw [lastBegun] at behind
      split at behind
      · omega
      · rename_i later
        by_cases last : place = bound + 1
        · subst last
          omega
        · exact ih behind (by omega)

end LastBegun

namespace Date

variable {number : Nat}

theorem yearUpTo_eq (number bound : Nat) :
    yearUpTo number bound = lastBegun daysBeforeYear number bound := by
  induction bound with
  | zero => rfl
  | succ bound ih => rw [yearUpTo, lastBegun, ih]

theorem monthUpTo_eq (year dayOfYear bound : Nat) :
    monthUpTo year dayOfYear bound =
      lastBegun (daysBeforeMonth year) dayOfYear bound := by
  induction bound with
  | zero => rfl
  | succ bound ih => rw [monthUpTo, lastBegun, ih]

theorem yearUpTo_bounds {bound : Nat} (positive : 1 ≤ bound) :
    1 ≤ yearUpTo number bound ∧ yearUpTo number bound ≤ bound := by
  rw [yearUpTo_eq]
  exact lastBegun_bounds (by simp [daysBeforeYear]) positive

theorem monthUpTo_bounds (year dayOfYear : Nat) :
    1 ≤ monthUpTo year dayOfYear 12 ∧ monthUpTo year dayOfYear 12 ≤ 12 := by
  rw [monthUpTo_eq]
  exact lastBegun_bounds
    (by simp [daysBeforeMonth, daysBeforeMonthInCommonYear]) (by decide)

/-- The year that is found for a number is the one that the day lies in. -/
theorem lt_daysBeforeYear_yearUpTo :
    number < daysBeforeYear (yearUpTo number (number / 365 + 1) + 1) := by
  by_cases inside : yearUpTo number (number / 365 + 1) < number / 365 + 1
  · rw [yearUpTo_eq] at inside ⊢
    exact lt_of_lastBegun_lt (Nat.lt_succ_self _) inside
  · -- No year is shorter than 365 days.
    have upper : yearUpTo number (number / 365 + 1) ≤ number / 365 + 1 :=
      (yearUpTo_bounds (Nat.le_add_left 1 (number / 365))).2
    have last : yearUpTo number (number / 365 + 1) = number / 365 + 1 := by
      omega
    rw [last, daysBeforeYear]
    omega

/-- The month that is found for a day of the year is the one that it lies in. -/
theorem lt_daysBeforeMonth_monthUpTo {year dayOfYear : Nat}
    (inYear : dayOfYear < daysBeforeMonth year 13) :
    dayOfYear < daysBeforeMonth year (monthUpTo year dayOfYear 12 + 1) := by
  by_cases inside : monthUpTo year dayOfYear 12 < 12
  · rw [monthUpTo_eq] at inside ⊢
    exact lt_of_lastBegun_lt (Nat.lt_succ_self _) inside
  · have upper := (monthUpTo_bounds year dayOfYear).2
    have last : monthUpTo year dayOfYear 12 = 12 := by omega
    rw [last]
    exact inYear

/-- Each day before a date has a date. -/
theorem exists_ofNumber? {date : Date} (atMost : number ≤ date.number) :
    ∃ found, ofNumber? number = some found := by
  have first : 1 ≤ number / 365 + 1 := by omega
  have yearLower : 1 ≤ yearUpTo number (number / 365 + 1) :=
    (yearUpTo_bounds first).1
  have starts := daysBeforeYear_yearUpTo number (number / 365 + 1)
  have ends : number < daysBeforeYear (yearUpTo number (number / 365 + 1) + 1) :=
    lt_daysBeforeYear_yearUpTo
  simp only [ofNumber?]
  generalize yearUpTo number (number / 365 + 1) = year at yearLower starts ends ⊢
  -- The year is no later than the one of the date.
  have yearUpper : year ≤ maxYear := by
    rcases date.valid with ⟨-, dateUpper, -⟩
    refine Nat.le_trans ?_ dateUpper
    by_contra later
    have mono := daysBeforeYear_mono (Nat.le_add_left 1 date.year)
      (show date.year + 1 ≤ year by omega)
    have next := daysBeforeYear_succ (show 1 ≤ date.year from date.valid.1)
    have inYear := date.dayOfYear_lt
    rw [number_eq] at atMost
    omega
  rw [daysBeforeYear_succ yearLower] at ends
  have inYear : number - daysBeforeYear year < daysBeforeMonth year 13 := by
    omega
  generalize number - daysBeforeYear year = dayOfYear at inYear ⊢
  have monthBounds := monthUpTo_bounds year dayOfYear
  have monthStarts := daysBeforeMonth_monthUpTo year dayOfYear 12
  have monthEnds := lt_daysBeforeMonth_monthUpTo inYear
  generalize monthUpTo year dayOfYear 12 = month
    at monthBounds monthStarts monthEnds ⊢
  rw [daysBeforeMonth_succ year monthBounds.1 monthBounds.2] at monthEnds
  exact ⟨_, dif_pos ⟨yearLower, yearUpper, monthBounds.1, monthBounds.2,
    by omega, by omega⟩⟩

end Date

/-! ## Points in time -/

namespace DateTime

variable {time start : DateTime} {days : Int}

/-- A point in time is a whole number of days before another one. -/
def IsDaysBefore (start : DateTime) (days : Int) (time : DateTime) : Prop :=
  (start.seconds : Int) + days * 86400 = time.seconds

theorem IsDaysBefore.unique {other : DateTime}
    (before : start.IsDaysBefore days time)
    (beforeToo : other.IsDaysBefore days time) :
    start = other := by
  unfold IsDaysBefore at before beforeToo
  exact eq_of_seconds_eq (by omega)

/-- The days since the calendar began. -/
theorem IsDaysBefore.number_eq (before : start.IsDaysBefore days time) :
    (start.date.number : Int) = time.date.number - days := by
  have inDay := start.secondOfDay_lt
  have inDayToo := time.secondOfDay_lt
  unfold IsDaysBefore at before
  rw [seconds, seconds] at before
  omega

/-- The point in time so many days before is found, if there is one. -/
theorem minusDays?_eq_some_iff :
    time.minusDays? days = some start ↔ start.IsDaysBefore days time := by
  constructor
  · intro back
    have distance := seconds_of_minusDays? back
    unfold IsDaysBefore
    omega
  · intro before
    have number := before.number_eq
    have same : ((time.date.number : Int) - days).toNat = start.date.number := by
      omega
    rcases Date.exists_ofNumber? (Nat.le_refl start.date.number) with
      ⟨date, found⟩
    have back : time.minusDays? days = some { time with date } := by
      rw [minusDays?, if_pos (by omega), same, found]
      rfl
    have distance := seconds_of_minusDays? back
    rw [back, Option.some.injEq]
    have beforeToo : IsDaysBefore { time with date } days time := by
      unfold IsDaysBefore
      omega
    exact beforeToo.unique before

/-- There is a point in time so many days before if the calendar is so old. -/
theorem exists_isDaysBefore_iff (positive : 1 ≤ days) :
    (∃ start : DateTime, start.IsDaysBefore days time) ↔
      days ≤ time.date.number := by
  constructor
  · rintro ⟨start, before⟩
    have number := before.number_eq
    omega
  · intro old
    have earlier : ((time.date.number : Int) - days).toNat ≤ time.date.number := by
      omega
    rcases Date.exists_ofNumber? earlier with ⟨date, found⟩
    refine ⟨{ time with date }, minusDays?_eq_some_iff.mp ?_⟩
    rw [minusDays?, if_pos (by omega), found]
    rfl

end DateTime

end ClusterLog.Calendar
