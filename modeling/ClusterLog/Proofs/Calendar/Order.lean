import ClusterLog.Proofs.Calendar.Written

/-!
# The order of timestamps

The fourteen digits of points in time are ordered as texts like the points in
time themselves.  Both orders compare the year first, then the month, the day
and the time of day: the digits because each field has its own width, and the
seconds because no year, month or day is longer than the distance to the next
one.
-/

namespace ClusterLog.Calendar

open ClusterLog.Text

/-! ## Days -/

/-- A year ends where the next one begins. -/
theorem daysBeforeYear_succ {year : Nat} (positive : 1 ≤ year) :
    daysBeforeYear (year + 1) =
      daysBeforeYear year + daysBeforeMonth year 13 := by
  obtain ⟨past, rfl⟩ : ∃ past, year = past + 1 := ⟨year - 1, by omega⟩
  have length : daysBeforeMonth (past + 1) 13 =
      365 + if isLeap (past + 1) then 1 else 0 := by
    simp [daysBeforeMonth, daysBeforeMonthInCommonYear]
  rw [length]
  have fourth : (past + 1) / 4 =
      past / 4 + if (past + 1) % 4 = 0 then 1 else 0 := by
    split <;> omega
  have century : (past + 1) / 100 =
      past / 100 + if (past + 1) % 100 = 0 then 1 else 0 := by
    split <;> omega
  have era : (past + 1) / 400 =
      past / 400 + if (past + 1) % 400 = 0 then 1 else 0 := by
    split <;> omega
  have eraIsCentury : (past + 1) % 400 = 0 → (past + 1) % 100 = 0 := by omega
  have centuryIsFourth : (past + 1) % 100 = 0 → (past + 1) % 4 = 0 := by omega
  have fewer : past / 100 ≤ past / 4 := by omega
  simp only [daysBeforeYear, Nat.add_sub_cancel, isLeap, fourth, century, era]
  -- The quotients are named, so that only the case of the new year is open.
  generalize past / 4 = fourths at fewer ⊢
  generalize past / 100 = centuries at fewer ⊢
  by_cases byFour : (past + 1) % 4 = 0
  · by_cases byHundred : (past + 1) % 100 = 0
    · by_cases byEra : (past + 1) % 400 = 0
      · simp [byFour, byHundred, byEra]
        omega
      · simp [byFour, byHundred, byEra]
        omega
    · have noEra := mt eraIsCentury byHundred
      simp [byFour, byHundred, noEra]
      omega
  · have noCentury := mt centuryIsFourth byFour
    have noEra := mt eraIsCentury noCentury
    simp [byFour, noCentury, noEra]
    omega

theorem daysBeforeYear_mono {year other : Nat} (positive : 1 ≤ year)
    (atMost : year ≤ other) :
    daysBeforeYear year ≤ daysBeforeYear other := by
  induction other, atMost using Nat.le_induction with
  | base => exact Nat.le_refl _
  | succ other atMost ih =>
      rw [daysBeforeYear_succ (by omega)]
      omega

/-- A month ends where the next one begins. -/
theorem daysBeforeMonth_succ (year : Nat) {month : Nat} (lower : 1 ≤ month)
    (upper : month ≤ 12) :
    daysBeforeMonth year (month + 1) =
      daysBeforeMonth year month + daysInMonth year month := by
  interval_cases month <;> cases leap : isLeap year <;>
    simp [daysInMonth, daysBeforeMonth, daysBeforeMonthInCommonYear, leap]

theorem daysBeforeMonth_mono (year : Nat) {month other : Nat}
    (lower : 1 ≤ month) (atMost : month ≤ other) (upper : other ≤ 13) :
    daysBeforeMonth year month ≤ daysBeforeMonth year other := by
  induction other, atMost using Nat.le_induction with
  | base => exact Nat.le_refl _
  | succ other atMost ih =>
      have here := ih (by omega)
      rw [daysBeforeMonth_succ year (by omega) (by omega)]
      omega

namespace Date

/-- The days of the year before a date. -/
def dayOfYear (date : Date) : Nat :=
  daysBeforeMonth date.year date.month + (date.day - 1)

theorem number_eq (date : Date) :
    date.number = daysBeforeYear date.year + date.dayOfYear :=
  Nat.add_assoc _ _ _

theorem dayOfYear_lt_next (date : Date) :
    date.dayOfYear < daysBeforeMonth date.year (date.month + 1) := by
  rcases date.valid with ⟨-, -, monthLower, monthUpper, dayLower, dayUpper⟩
  rw [dayOfYear, daysBeforeMonth_succ date.year monthLower monthUpper]
  omega

theorem dayOfYear_lt (date : Date) :
    date.dayOfYear < daysBeforeMonth date.year 13 := by
  rcases date.valid with ⟨-, -, monthLower, monthUpper, -, -⟩
  exact Nat.lt_of_lt_of_le date.dayOfYear_lt_next
    (daysBeforeMonth_mono date.year (by omega) (by omega) (Nat.le_refl 13))

variable {date other : Date}

theorem number_lt_of_year (less : date.year < other.year) :
    date.number < other.number := by
  rcases date.valid with ⟨positive, -⟩
  have next := daysBeforeYear_succ positive
  have mono := daysBeforeYear_mono (Nat.le_add_left 1 date.year) less
  have inYear := date.dayOfYear_lt
  rw [number_eq, number_eq]
  omega

theorem number_lt_of_month (sameYear : date.year = other.year)
    (less : date.month < other.month) :
    date.number < other.number := by
  rcases other.valid with ⟨-, -, -, monthUpper, -, -⟩
  have inMonth := date.dayOfYear_lt_next
  have mono := daysBeforeMonth_mono date.year (Nat.le_add_left 1 date.month)
    less (by omega)
  have start : daysBeforeMonth other.year other.month ≤ other.dayOfYear :=
    Nat.le_add_right _ _
  rw [sameYear] at inMonth mono
  rw [number_eq, number_eq, sameYear]
  omega

theorem number_lt_of_day (sameYear : date.year = other.year)
    (sameMonth : date.month = other.month) (less : date.day < other.day) :
    date.number < other.number := by
  rcases date.valid with ⟨-, -, -, -, dayLower, -⟩
  rw [number, number, sameYear, sameMonth]
  omega

end Date

/-! ## Points in time -/

namespace DateTime

theorem lt_iff {time other : DateTime} :
    time < other ↔ time.seconds < other.seconds :=
  Iff.rfl

theorem le_iff {time other : DateTime} :
    time ≤ other ↔ time.seconds ≤ other.seconds :=
  Iff.rfl

theorem secondOfDay_lt (time : DateTime) :
    time.secondOfDay < 86400 := by
  rcases time.valid with ⟨hour, minute, second⟩
  rw [secondOfDay]
  omega

/-- The number that the fourteen digits of a point in time denote. -/
def digitsNumber (time : DateTime) : Nat :=
  ((((time.date.year * 100 + time.date.month) * 100 + time.date.day) * 100 +
    time.hour) * 100 + time.minute) * 100 + time.second

theorem areDigits_fourteenDigits (time : DateTime) :
    AreDigits time.fourteenDigits := by
  have date := ((areDigits_paddedDecimal 4 time.date.year).append
    (areDigits_paddedDecimal 2 time.date.month)).append
      (areDigits_paddedDecimal 2 time.date.day)
  exact ((date.append (areDigits_paddedDecimal 2 time.hour)).append
    (areDigits_paddedDecimal 2 time.minute)).append
      (areDigits_paddedDecimal 2 time.second)

theorem month_lt (time : DateTime) : time.date.month < 100 := by
  have upper := time.date.valid.2.2.2.1
  omega

theorem day_lt (time : DateTime) : time.date.day < 100 := by
  rcases time.date.valid with
    ⟨-, -, monthLower, monthUpper, -, dayUpper⟩
  have limit := daysInMonth_le time.date.year monthLower monthUpper
  omega

theorem length_fourteenDigits (time : DateTime) :
    time.fourteenDigits.length = 14 := by
  rcases time.date.valid with ⟨-, yearUpper, -⟩
  rcases time.valid with ⟨hour, minute, second⟩
  have year : (paddedDecimal 4 time.date.year).length = 4 :=
    length_paddedDecimal (by decide) (Nat.lt_succ_of_le yearUpper)
  simp only [fourteenDigits, List.length_append, year,
    length_twoDigits time.month_lt, length_twoDigits time.day_lt,
    length_twoDigits (show time.hour < 100 by omega),
    length_twoDigits (show time.minute < 100 by omega),
    length_twoDigits (show time.second < 100 by omega)]

theorem numeral_append_twoDigits (front : List Char) {value : Nat}
    (small : value < 100) :
    numeral (front ++ twoDigits value) = numeral front * 100 + value := by
  have width := length_twoDigits small
  rw [twoDigits] at width ⊢
  rw [numeral_append (areDigits_paddedDecimal 2 value), width,
    numeral_paddedDecimal]
  rfl

theorem numeral_fourteenDigits (time : DateTime) :
    numeral time.fourteenDigits = time.digitsNumber := by
  rcases time.valid with ⟨hour, minute, second⟩
  rw [fourteenDigits, numeral_append_twoDigits _ (by omega),
    numeral_append_twoDigits _ (by omega),
    numeral_append_twoDigits _ (by omega),
    numeral_append_twoDigits _ time.day_lt,
    numeral_append_twoDigits _ time.month_lt, numeral_paddedDecimal]
  rfl

/-- One of the fields, from the year on, is the first to differ. -/
theorem fields_of_digitsNumber_lt {time other : DateTime}
    (less : time.digitsNumber < other.digitsNumber) :
    time.date.year < other.date.year ∨
      time.date.year = other.date.year ∧
        (time.date.month < other.date.month ∨
          time.date.month = other.date.month ∧
            (time.date.day < other.date.day ∨
              time.date.day = other.date.day ∧
                time.secondOfDay < other.secondOfDay)) := by
  have month := time.month_lt
  have day := time.day_lt
  rcases time.valid with ⟨hour, minute, second⟩
  rcases other.valid with ⟨otherHour, otherMinute, otherSecond⟩
  have otherMonth := other.month_lt
  have otherDay := other.day_lt
  simp only [digitsNumber, secondOfDay] at less ⊢
  omega

theorem seconds_lt_of_digitsNumber_lt {time other : DateTime}
    (less : time.digitsNumber < other.digitsNumber) :
    time.seconds < other.seconds := by
  have inDay := time.secondOfDay_lt
  have earlier (days : time.date.number < other.date.number) :
      time.seconds < other.seconds := by
    rw [seconds, seconds]
    omega
  -- A later clock on the same day counts in seconds, all else in days.
  rcases fields_of_digitsNumber_lt less with
    year | ⟨sameYear, month | ⟨sameMonth, day | ⟨sameDay, clock⟩⟩⟩
  · exact earlier (Date.number_lt_of_year year)
  · exact earlier (Date.number_lt_of_month sameYear month)
  · exact earlier (Date.number_lt_of_day sameYear sameMonth day)
  · rw [seconds, seconds, Date.number, Date.number, sameYear, sameMonth,
      sameDay]
    omega

theorem eq_of_digitsNumber_eq {time other : DateTime}
    (same : time.digitsNumber = other.digitsNumber) :
    time = other := by
  have fields : time.date.year = other.date.year ∧
      time.date.month = other.date.month ∧ time.date.day = other.date.day ∧
      time.hour = other.hour ∧ time.minute = other.minute ∧
      time.second = other.second := by
    have month := time.month_lt
    have day := time.day_lt
    have otherMonth := other.month_lt
    have otherDay := other.day_lt
    rcases time.valid with ⟨hour, minute, second⟩
    rcases other.valid with ⟨otherHour, otherMinute, otherSecond⟩
    simp only [digitsNumber] at same
    omega
  rcases time with ⟨⟨year, month, day, date⟩, hour, minute, second, clock⟩
  rcases other with
    ⟨⟨year', month', day', date'⟩, hour', minute', second', clock'⟩
  rcases fields with ⟨rfl, rfl, rfl, rfl, rfl, rfl⟩
  rfl

/-- Digits and seconds order points in time alike. -/
theorem digitsNumber_le_iff {time other : DateTime} :
    time.digitsNumber ≤ other.digitsNumber ↔
      time.seconds ≤ other.seconds := by
  constructor
  · intro atMost
    rcases Nat.lt_or_eq_of_le atMost with less | same
    · exact Nat.le_of_lt (seconds_lt_of_digitsNumber_lt less)
    · rw [eq_of_digitsNumber_eq same]
  · intro atMost
    by_contra more
    have less := seconds_lt_of_digitsNumber_lt (Nat.lt_of_not_le more)
    omega

/-- Of two points in time the earlier one has the smaller digits. -/
theorem precedes_fourteenDigits (time other : DateTime) :
    precedes time.fourteenDigits other.fourteenDigits = true ↔
      time ≤ other := by
  rw [precedes_iff_numeral_le time.areDigits_fourteenDigits
      other.areDigits_fourteenDigits
      (time.length_fourteenDigits.trans other.length_fourteenDigits.symm),
    numeral_fourteenDigits, numeral_fourteenDigits]
  exact digitsNumber_le_iff

/-- Points in time are as many as their seconds. -/
theorem eq_of_seconds_eq {time other : DateTime}
    (same : time.seconds = other.seconds) :
    time = other := by
  apply eq_of_digitsNumber_eq
  apply Nat.le_antisymm
  · exact digitsNumber_le_iff.mpr (Nat.le_of_eq same)
  · exact digitsNumber_le_iff.mpr (Nat.le_of_eq same.symm)

/-! ## The earlier and the later of two points in time -/

theorem seconds_earlier (first second : DateTime) :
    (earlier first second).seconds = min first.seconds second.seconds := by
  rw [earlier]
  split
  · rename_i less
    exact (Nat.min_eq_right (Nat.le_of_lt less)).symm
  · rename_i noLess
    exact (Nat.min_eq_left (Nat.le_of_not_lt noLess)).symm

theorem seconds_later (first second : DateTime) :
    (later first second).seconds = max first.seconds second.seconds := by
  rw [later]
  split
  · rename_i less
    exact (Nat.max_eq_right (Nat.le_of_lt less)).symm
  · rename_i noLess
    exact (Nat.max_eq_left (Nat.le_of_not_lt noLess)).symm

instance : Std.Commutative earlier where
  comm first second := eq_of_seconds_eq (by
    rw [seconds_earlier, seconds_earlier, Nat.min_comm])

instance : Std.Associative earlier where
  assoc first second third := eq_of_seconds_eq (by
    simp only [seconds_earlier, Nat.min_assoc])

instance : Std.Commutative later where
  comm first second := eq_of_seconds_eq (by
    rw [seconds_later, seconds_later, Nat.max_comm])

instance : Std.Associative later where
  assoc first second third := eq_of_seconds_eq (by
    simp only [seconds_later, Nat.max_assoc])

/-! ## Reading -/

theorem read_fourteenDigits (time : DateTime) :
    Format.read stampFormat time.fourteenDigits =
      some ([(.year, time.date.year), (.month, time.date.month),
        (.day, time.date.day), (.hour, time.hour),
        (.minute, time.minute), (.second, time.second)], []) := by
  rcases time.date.valid with
    ⟨-, yearUpper, monthLower, monthUpper, dayLower, dayUpper⟩
  rcases time.valid with ⟨hourUpper, minuteUpper, secondUpper⟩
  have dayLimit := dayUpper.trans (daysInMonth_le _ monthLower monthUpper)
  have second := Field.readings_second secondUpper []
  have minute := Field.readings_minute minuteUpper (twoDigits time.second ++ [])
  have hour := Field.readings_hour hourUpper
    (twoDigits time.minute ++ (twoDigits time.second ++ []))
  have day := Field.readings_day dayLower dayLimit
    (twoDigits time.hour ++
      (twoDigits time.minute ++ (twoDigits time.second ++ [])))
  have month := Field.readings_month monthLower monthUpper
    (twoDigits time.date.day ++ (twoDigits time.hour ++
      (twoDigits time.minute ++ (twoDigits time.second ++ []))))
  rw [stampFormat, fourteenDigits, ← List.append_nil (twoDigits time.second)]
  simp only [List.append_assoc]
  apply Format.read_field (Field.readings_year yearUpper _)
  apply Format.read_field month.choose_spec
  apply Format.read_field day.choose_spec
  apply Format.read_field hour.choose_spec
  apply Format.read_field minute.choose_spec
  exact Format.read_field second.choose_spec rfl

/-- The fourteen digits of a point in time are read back. -/
theorem ofStamp?_fourteenDigits {time : DateTime} {text : String}
    (written : text.toList = time.fourteenDigits) :
    ofStamp? text = some time := by
  have fields := dateTimeOfFields?_all time.date.year time.date.month
    time.date.day time.hour time.minute time.second
  rw [ofStamp?, written]
  simp [Format.parse?, read_fourteenDigits, fields, of?_eq_some]

end DateTime

/-! ## Going back -/

namespace Date

theorem daysBeforeYear_yearUpTo (number bound : Nat) :
    daysBeforeYear (yearUpTo number bound) ≤ number := by
  induction bound with
  | zero => simp [yearUpTo, daysBeforeYear]
  | succ bound ih =>
      rw [yearUpTo]
      split
      · assumption
      · exact ih

theorem daysBeforeMonth_monthUpTo (year dayOfYear bound : Nat) :
    daysBeforeMonth year (monthUpTo year dayOfYear bound) ≤ dayOfYear := by
  induction bound with
  | zero => simp [monthUpTo, daysBeforeMonth, daysBeforeMonthInCommonYear]
  | succ bound ih =>
      rw [monthUpTo]
      split
      · assumption
      · exact ih

/-- The date with a number has this number. -/
theorem number_of_ofNumber? {number : Nat} {date : Date}
    (found : ofNumber? number = some date) :
    date.number = number := by
  simp only [ofNumber?, of?] at found
  split at found
  · cases found
    have year := daysBeforeYear_yearUpTo number (number / 365 + 1)
    have month := daysBeforeMonth_monthUpTo
      (yearUpTo number (number / 365 + 1))
      (number - daysBeforeYear (yearUpTo number (number / 365 + 1))) 12
    simp only [Date.number]
    omega
  · cases found

end Date

namespace DateTime

variable {time start : DateTime} {days : Int}

/-- Going back a number of days is going back as many times the seconds of a
day. -/
theorem seconds_of_minusDays? (back : time.minusDays? days = some start) :
    (start.seconds : Int) = time.seconds - days * 86400 := by
  simp only [minusDays?] at back
  split at back
  · rename_i inside
    rcases Option.map_eq_some_iff.mp back with ⟨date, found, rfl⟩
    have number := Date.number_of_ofNumber? found
    have sameClock : { time with date }.secondOfDay = time.secondOfDay := rfl
    rw [seconds, seconds, sameClock]
    simp only [number]
    omega
  · cases back

/-- A day or more before a point in time is earlier. -/
theorem lt_of_minusDays? (positive : 1 ≤ days)
    (back : time.minusDays? days = some start) :
    start < time := by
  have distance := seconds_of_minusDays? back
  rw [lt_iff]
  omega

/-- More days before a point in time are no later. -/
theorem minusDays?_antitone {more : Int} {earlier : DateTime}
    (atMost : days ≤ more)
    (back : time.minusDays? days = some start)
    (further : time.minusDays? more = some earlier) :
    earlier ≤ start := by
  have distance := seconds_of_minusDays? back
  have longer := seconds_of_minusDays? further
  rw [le_iff]
  omega

end DateTime

end ClusterLog.Calendar
