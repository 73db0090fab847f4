import ClusterLog.Calendar.Stamp
import ClusterLog.Proofs.Text.Numeral
import ClusterLog.Proofs.Text.Trim

/-!
# Written points in time

A point in time that is written the way log lines write it,
`yyyy-MM-dd HH:mm:ss`, is read back as itself.  The shapes of a date
field overlap (a month is one digit or two), so the statements about fields say
that the reading of both digits is the first one that is tried.
-/

namespace ClusterLog.Calendar

open ClusterLog.Text

/-! ## Fields of two digits -/

theorem Field.readings_month {month : Nat}
    (lower : 1 ≤ month) (upper : month ≤ 12) (rest : List Char) :
    ∃ others,
      Field.month.readings (twoDigits month ++ rest) =
        (month, rest) :: others := by
  interval_cases month <;> exact ⟨_, rfl⟩

theorem Field.readings_day {day : Nat}
    (lower : 1 ≤ day) (upper : day ≤ 31) (rest : List Char) :
    ∃ others,
      Field.day.readings (twoDigits day ++ rest) =
        (day, rest) :: others := by
  interval_cases day <;> exact ⟨_, rfl⟩

theorem Field.readings_hour {hour : Nat}
    (upper : hour < 24) (rest : List Char) :
    ∃ others,
      Field.hour.readings (twoDigits hour ++ rest) =
        (hour, rest) :: others := by
  interval_cases hour <;> exact ⟨_, rfl⟩

theorem Field.readings_minute {minute : Nat}
    (upper : minute < 60) (rest : List Char) :
    ∃ others,
      Field.minute.readings (twoDigits minute ++ rest) =
        (minute, rest) :: others := by
  interval_cases minute <;> exact ⟨_, rfl⟩

theorem Field.readings_second {second : Nat}
    (upper : second < 60) (rest : List Char) :
    ∃ others,
      Field.second.readings (twoDigits second ++ rest) =
        (second, rest) :: others := by
  interval_cases second <;> exact ⟨_, rfl⟩

/-! ## Years -/

theorem readGlyphs_digits {digits : List Char}
    (ascii : ∀ c ∈ digits, isAsciiDigit c = true) (rest : List Char) :
    readGlyphs (List.replicate digits.length .digit) (digits ++ rest) =
      some (digits.filterMap digitValue?, rest) := by
  induction digits with
  | nil => rfl
  | cons c digits ih =>
      have value : digitValue? c = some (c.toNat - 48) :=
        digitValue?_of_asciiDigit (ascii c (by simp))
      have others : ∀ d ∈ digits, isAsciiDigit d = true :=
        fun d inside => ascii d (by simp [inside])
      simp [List.replicate_succ, readGlyphs, Glyph.digits?, value, ih others]

/-- A year of four digits, as dates write it. -/
theorem paddedDecimal_year {year : Nat}
    (lower : 1000 ≤ year) (upper : year ≤ 9999) :
    paddedDecimal 4 year = decimal year := by
  simp [paddedDecimal, length_decimal_four lower upper]

theorem Field.readings_year {year : Nat} (upper : year ≤ 9999)
    (rest : List Char) :
    Field.year.readings (paddedDecimal 4 year ++ rest) =
      [(year, rest)] := by
  have ascii := areDigits_paddedDecimal 4 year
  have width : (paddedDecimal 4 year).length = 4 :=
    length_paddedDecimal (by decide) (by omega)
  have glyphs := readGlyphs_digits ascii rest
  rw [width] at glyphs
  have digits : readGlyphs [.digit, .digit, .digit, .digit]
      (paddedDecimal 4 year ++ rest) =
        some ((paddedDecimal 4 year).filterMap digitValue?, rest) := glyphs
  have value : digitsValue ((paddedDecimal 4 year).filterMap digitValue?) =
      year :=
    numeral_paddedDecimal 4 year
  simp [Field.readings, Field.shapes, digits, value]

/-! ## Formats -/

/-- Where the first reading of a field leads on, it counts. -/
theorem Format.read_field {field : Field} {items : Format}
    {text rest left : List Char} {value : Nat}
    {others : List (Nat × List Char)} {values : List (Field × Nat)}
    (readings : field.readings text = (value, rest) :: others)
    (goesOn : Format.read items rest = some (values, left)) :
    Format.read (.field field :: items) text =
      some ((field, value) :: values, left) := by
  simp [Format.read, readings, goesOn]

theorem Format.read_literal {c : Char} {items : Format}
    {rest : List Char} :
    Format.read (.literal c :: items) (c :: rest) =
      Format.read items rest := by
  simp [Format.read]

/-- A single space is the whole of a gap in front of a digit. -/
theorem Format.read_gap {items : Format} {rest : List Char}
    (digit : ∀ c ∈ rest.head?, isAsciiDigit c = true) :
    Format.read (.gap :: items) (' ' :: rest) =
      Format.read items rest := by
  have blank : isBlank ' ' = true := rfl
  have ends : afterBlanks rest = [] := by
    cases rest with
    | nil => rfl
    | cons c rest =>
        have nonblank : isBlank c = false :=
          isBlank_of_asciiDigit (digit c (by simp))
        simp [afterBlanks, nonblank]
  simp [Format.read, afterBlanks, blank, ends]

/-! ## Points in time -/

theorem daysInMonth_le (year : Nat) {month : Nat}
    (lower : 1 ≤ month) (upper : month ≤ 12) :
    daysInMonth year month ≤ 31 := by
  interval_cases month <;> cases leap : isLeap year <;>
    simp [daysInMonth, daysBeforeMonth, daysBeforeMonthInCommonYear, leap]

theorem Date.of?_eq_some (date : Date) :
    Date.of? date.year date.month date.day = some date := by
  simp [Date.of?, date.valid]

theorem DateTime.of?_eq_some (time : DateTime) :
    DateTime.of? time.date.year time.date.month time.date.day
      time.hour time.minute time.second = some time := by
  simp [DateTime.of?, Date.of?_eq_some, time.valid]

namespace DateTime

/-- The characters `yyyy-MM-dd HH:mm:ss` of a point in time. -/
def layoutChars (time : DateTime) : List Char :=
  paddedDecimal 4 time.date.year ++ '-' :: (twoDigits time.date.month ++
    '-' :: (twoDigits time.date.day ++ ' ' :: (twoDigits time.hour ++
      ':' :: (twoDigits time.minute ++ ':' :: twoDigits time.second))))

/-- The fourteen digits `yyyyMMddHHmmss` of a point in time. -/
def fourteenDigits (time : DateTime) : List Char :=
  paddedDecimal 4 time.date.year ++ twoDigits time.date.month ++
    twoDigits time.date.day ++ twoDigits time.hour ++
      twoDigits time.minute ++ twoDigits time.second

/-- A date is written in digits and three separators. -/
theorem mem_layoutChars {time : DateTime} {c : Char}
    (inside : c ∈ time.layoutChars) :
    isAsciiDigit c = true ∨ c = '-' ∨ c = ' ' ∨ c = ':' := by
  simp only [layoutChars, List.mem_append, List.mem_cons] at inside
  rcases inside with digit | rfl | digit | rfl | digit | rfl | digit |
    rfl | digit | rfl | digit
  all_goals first
    | exact Or.inl (isAsciiDigit_of_mem_paddedDecimal digit)
    | simp

theorem length_twoDigits {value : Nat} (small : value < 100) :
    (twoDigits value).length = 2 := by
  have atMost : (decimal value).length ≤ 2 :=
    (Nat.length_toDigits_le_iff (by decide) (by decide)).mpr (by omega)
  simp [twoDigits, paddedDecimal]
  omega

theorem paddedDecimal_ne_nil (width value : Nat) :
    paddedDecimal width value ≠ [] := by
  simp [paddedDecimal, decimal]

/-- A date begins and ends with a digit. -/
theorem trim_layoutChars (time : DateTime) :
    trim time.layoutChars = time.layoutChars := by
  apply trim_eq_self
  · intro c first
    obtain ⟨d, others, split⟩ :=
      List.exists_cons_of_ne_nil (paddedDecimal_ne_nil 4 time.date.year)
    have same : d = c := by simpa [layoutChars, split] using first
    rw [← same]
    exact isBlank_of_asciiDigit (isAsciiDigit_of_mem_paddedDecimal
      (show d ∈ paddedDecimal 4 time.date.year by simp [split]))
  · intro c last
    obtain ⟨digits, d, split⟩ :
        ∃ digits d, paddedDecimal 2 time.second = digits ++ [d] :=
      ⟨_, _, (List.dropLast_concat_getLast
        (paddedDecimal_ne_nil 2 time.second)).symm⟩
    have same : d = c := by
      simpa [layoutChars, twoDigits, split, List.getLast?_append,
        List.getLast?_cons] using last
    rw [← same]
    exact isBlank_of_asciiDigit (isAsciiDigit_of_mem_paddedDecimal
      (show d ∈ paddedDecimal 2 time.second by simp [split]))

theorem layoutChars_ne_nil (time : DateTime) :
    time.layoutChars ≠ [] := by
  simp [layoutChars]

theorem layoutChars_eq_cons (time : DateTime) :
    ∃ c others, time.layoutChars = c :: others ∧ isAsciiDigit c = true := by
  rcases List.exists_cons_of_ne_nil (paddedDecimal_ne_nil 4 time.date.year) with
    ⟨c, others, split⟩
  exact ⟨c, _, by simp only [layoutChars, split, List.cons_append]; rfl,
    isAsciiDigit_of_mem_paddedDecimal
      (show c ∈ paddedDecimal 4 time.date.year by simp [split])⟩

theorem comma_not_mem_layoutChars (time : DateTime) :
    ',' ∉ time.layoutChars := by
  intro inside
  rcases mem_layoutChars inside with digit | other | other | other
  · simp [isAsciiDigit] at digit
  all_goals simp at other

/-- The timestamp of a year of four digits has fourteen digits. -/
theorem stampChars_eq_fourteenDigits {time : DateTime}
    (modern : 1000 ≤ time.date.year) :
    time.stampChars = time.fourteenDigits := by
  have upper : time.date.year ≤ 9999 := time.date.valid.2.1
  rw [stampChars, fourteenDigits, paddedDecimal_year modern upper]

theorem read_layoutChars (time : DateTime) :
    Format.read layoutFormat time.layoutChars =
      some ([(.year, time.date.year), (.month, time.date.month),
        (.day, time.date.day), (.hour, time.hour),
        (.minute, time.minute), (.second, time.second)], []) := by
  rcases time.date.valid with
    ⟨-, yearUpper, monthLower, monthUpper, dayLower, dayUpper⟩
  rcases time.valid with ⟨hourUpper, minuteUpper, secondUpper⟩
  have dayLimit : time.date.day ≤ 31 :=
    dayUpper.trans (daysInMonth_le _ monthLower monthUpper)
  have clock (rest : List Char) :
      ∀ c ∈ (twoDigits time.hour ++ rest).head?, isAsciiDigit c = true := by
    intro c first
    have length : (twoDigits time.hour).length = 2 :=
      length_twoDigits (by omega)
    cases split : twoDigits time.hour with
    | nil => simp [split] at length
    | cons d digits =>
        have same : d = c := by simpa [split] using first
        rw [← same]
        exact isAsciiDigit_of_mem_paddedDecimal
          (show d ∈ twoDigits time.hour by simp [split])
  rcases Field.readings_second secondUpper [] with ⟨_, second⟩
  obtain ⟨_, minute⟩ := Field.readings_minute minuteUpper
    (':' :: (twoDigits time.second ++ []))
  obtain ⟨_, hour⟩ := Field.readings_hour hourUpper
    (':' :: (twoDigits time.minute ++ ':' :: (twoDigits time.second ++ [])))
  obtain ⟨_, day⟩ := Field.readings_day dayLower dayLimit
    (' ' :: (twoDigits time.hour ++ ':' :: (twoDigits time.minute ++
      ':' :: (twoDigits time.second ++ []))))
  obtain ⟨_, month⟩ := Field.readings_month monthLower monthUpper
    ('-' :: (twoDigits time.date.day ++ ' ' :: (twoDigits time.hour ++
      ':' :: (twoDigits time.minute ++ ':' :: (twoDigits time.second ++ [])))))
  rw [layoutFormat, layoutChars,
    ← List.append_nil (twoDigits time.second)]
  apply Format.read_field (Field.readings_year yearUpper _)
  rw [Format.read_literal]
  apply Format.read_field month
  rw [Format.read_literal]
  apply Format.read_field day
  rw [Format.read_gap (clock _)]
  apply Format.read_field hour
  rw [Format.read_literal]
  apply Format.read_field minute
  rw [Format.read_literal]
  exact Format.read_field second rfl

theorem dateTimeOfFields?_all (year month day hour minute second : Nat) :
    dateTimeOfFields? [(.year, year), (.month, month), (.day, day),
      (.hour, hour), (.minute, minute), (.second, second)] =
        DateTime.of? year month day hour minute second := rfl

/-- A point in time that is written in a log line is read back. -/
theorem parse?_layoutChars (time : DateTime) :
    layoutFormat.parse? time.layoutChars = some time := by
  have fields := dateTimeOfFields?_all time.date.year time.date.month
    time.date.day time.hour time.minute time.second
  simp [Format.parse?, read_layoutChars time, fields, of?_eq_some]

end DateTime

end ClusterLog.Calendar
