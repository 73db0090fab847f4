import ClusterLog.Proofs.Calendar.Stamp

/-!
# Timestamps and points in time

A text of ASCII characters is read as a timestamp exactly if it is fourteen
digits, four for the year and two for each other field, that name a day of the
calendar and a time of day.  Fields of one digit are read as well, but fourteen
digits leave none to any of them.  For years of four digits, timestamps and
points in time therefore correspond to each other, and so do their orders.
-/

namespace ClusterLog.Calendar

open ClusterLog.Text

/-! ## Fourteen digits -/

/-- The number that stands at a place of a text. -/
def numberAt (start width : Nat) (text : List Char) : Nat :=
  numeral ((text.drop start).take width)

/-- The days of a month in the Gregorian calendar. -/
def monthLength (year month : Nat) : Nat :=
  if month = 2 then
    if 4 ∣ year ∧ (100 ∣ year → 400 ∣ year) then 29 else 28
  else if month ∈ [4, 6, 9, 11] then 30 else 31

/-- Fourteen digits that name a day of the calendar and a time of day. -/
structure IsStampText (text : List Char) : Prop where
  length : text.length = 14
  digits : AreDigits text
  year : 1 ≤ numberAt 0 4 text
  month : 1 ≤ numberAt 4 2 text ∧ numberAt 4 2 text ≤ 12
  day : 1 ≤ numberAt 6 2 text ∧
    numberAt 6 2 text ≤ monthLength (numberAt 0 4 text) (numberAt 4 2 text)
  hour : numberAt 8 2 text < 24
  minute : numberAt 10 2 text < 60
  second : numberAt 12 2 text < 60

theorem isLeap_iff (year : Nat) :
    isLeap year = true ↔ 4 ∣ year ∧ (100 ∣ year → 400 ∣ year) := by
  simp only [isLeap, Bool.and_eq_true, Bool.or_eq_true, beq_iff_eq, bne_iff_ne]
  omega

/-- Months are as long as the distance between their first days. -/
theorem daysInMonth_eq_monthLength (year : Nat) {month : Nat}
    (lower : 1 ≤ month) (upper : month ≤ 12) :
    daysInMonth year month = monthLength year month := by
  simp only [monthLength, ← isLeap_iff]
  interval_cases month <;> cases leap : isLeap year <;>
    simp [daysInMonth, daysBeforeMonth, daysBeforeMonthInCommonYear, leap]

theorem isDate_iff {year month day : Nat} :
    IsDate year month day ↔
      (1 ≤ year ∧ year ≤ 9999) ∧ (1 ≤ month ∧ month ≤ 12) ∧
        1 ≤ day ∧ day ≤ monthLength year month := by
  constructor
  · rintro
      ⟨yearLower, yearUpper, monthLower, monthUpper, dayLower, dayUpper⟩
    rw [daysInMonth_eq_monthLength year monthLower monthUpper] at dayUpper
    exact ⟨⟨yearLower, yearUpper⟩, ⟨monthLower, monthUpper⟩, dayLower,
      dayUpper⟩
  · rintro
      ⟨⟨yearLower, yearUpper⟩, ⟨monthLower, monthUpper⟩, dayLower, dayUpper⟩
    rw [← daysInMonth_eq_monthLength year monthLower monthUpper] at dayUpper
    exact ⟨yearLower, yearUpper, monthLower, monthUpper, dayLower, dayUpper⟩

theorem numberAt_zero {field rest : List Char} {width : Nat}
    (exact : field.length = width) :
    numberAt 0 width (field ++ rest) = numeral field := by
  rw [numberAt, List.drop_zero, List.take_left' exact]

theorem numberAt_append {front rest : List Char} {start width : Nat}
    (inside : front.length ≤ start) :
    numberAt start width (front ++ rest) =
      numberAt (start - front.length) width rest := by
  rw [numberAt, numberAt, List.drop_append, List.drop_of_length_le inside,
    List.nil_append]

theorem paddedDecimal_numberAt {text : List Char} {start width : Nat}
    (digits : AreDigits text) (positive : 0 < width)
    (inside : start + width ≤ text.length) :
    paddedDecimal width (numberAt start width text) =
      (text.drop start).take width := by
  have length : ((text.drop start).take width).length = width := by
    rw [List.length_take, List.length_drop]
    omega
  have digitsHere : AreDigits ((text.drop start).take width) :=
    fun c member => digits c (List.mem_of_mem_drop (List.mem_of_mem_take member))
  have nonempty : (text.drop start).take width ≠ [] :=
    List.ne_nil_of_length_pos (by omega)
  have written := paddedDecimal_numeral nonempty digitsHere
  rwa [length] at written

namespace DateTime

/-- The numbers that the fourteen digits of a point in time hold. -/
theorem numberAt_fourteenDigits (time : DateTime) :
    numberAt 0 4 time.fourteenDigits = time.date.year ∧
    numberAt 4 2 time.fourteenDigits = time.date.month ∧
    numberAt 6 2 time.fourteenDigits = time.date.day ∧
    numberAt 8 2 time.fourteenDigits = time.hour ∧
    numberAt 10 2 time.fourteenDigits = time.minute ∧
    numberAt 12 2 time.fourteenDigits = time.second := by
  rcases time.valid with ⟨hour, minute, second⟩
  have yearWidth : (paddedDecimal 4 time.date.year).length = 4 :=
    length_paddedDecimal (by decide) (Nat.lt_succ_of_le time.date.valid.2.1)
  have monthWidth := length_twoDigits time.month_lt
  have dayWidth := length_twoDigits time.day_lt
  have hourWidth := length_twoDigits (show time.hour < 100 by omega)
  have minuteWidth := length_twoDigits (show time.minute < 100 by omega)
  have secondWidth := length_twoDigits (show time.second < 100 by omega)
  have value (number : Nat) : numeral (twoDigits number) = number :=
    numeral_paddedDecimal 2 number
  have last : numberAt 0 2 (twoDigits time.second) = time.second := by
    rw [← List.append_nil (twoDigits time.second), numberAt_zero secondWidth,
      value]
  simp [fourteenDigits, numberAt_zero, numberAt_append, yearWidth, monthWidth,
    dayWidth, hourWidth, minuteWidth, value, last, numeral_paddedDecimal]

theorem isStampText_fourteenDigits (time : DateTime) :
    IsStampText time.fourteenDigits := by
  obtain ⟨year, month, day, hour, minute, second⟩ :=
    time.numberAt_fourteenDigits
  rcases isDate_iff.mp time.date.valid with ⟨yearValid, monthValid, dayValid⟩
  rcases time.valid with ⟨hourValid, minuteValid, secondValid⟩
  exact {
    length := time.length_fourteenDigits
    digits := time.areDigits_fourteenDigits
    year := by rw [year]; exact yearValid.1
    month := by rwa [month]
    day := by rwa [year, month, day]
    hour := by rwa [hour]
    minute := by rwa [minute]
    second := by rwa [second] }

theorem isDate_of_isStampText {text : List Char} (names : IsStampText text) :
    IsDate (numberAt 0 4 text) (numberAt 4 2 text) (numberAt 6 2 text) := by
  have digits : AreDigits (text.take 4) :=
    fun c member => names.digits c (List.mem_of_mem_take member)
  have length : (text.take 4).length = 4 := by
    rw [List.length_take, names.length]
    rfl
  have small := numeral_lt digits
  rw [length] at small
  exact isDate_iff.mpr
    ⟨⟨names.year, Nat.le_of_lt_succ small⟩, names.month, names.day⟩

/-- The point in time that fourteen digits name. -/
def ofStampText {text : List Char} (names : IsStampText text) : DateTime where
  date := ⟨numberAt 0 4 text, numberAt 4 2 text, numberAt 6 2 text,
    isDate_of_isStampText names⟩
  hour := numberAt 8 2 text
  minute := numberAt 10 2 text
  second := numberAt 12 2 text
  valid := ⟨names.hour, names.minute, names.second⟩

theorem fourteenDigits_ofStampText {text : List Char}
    (names : IsStampText text) :
    (ofStampText names).fourteenDigits = text := by
  have length := names.length
  have part {start width : Nat} (positive : 0 < width)
      (inside : start + width ≤ 14) :
      paddedDecimal width (numberAt start width text) =
        (text.drop start).take width :=
    paddedDecimal_numberAt names.digits positive (length ▸ inside)
  calc
    (ofStampText names).fourteenDigits =
        text.take 4 ++ (text.drop 4).take 2 ++ (text.drop 6).take 2 ++
          (text.drop 8).take 2 ++ (text.drop 10).take 2 ++
            (text.drop 12).take 2 := by
      simp only [fourteenDigits, twoDigits, ofStampText]
      rw [part, part, part, part, part, part] <;> simp
    _ = text.take 14 := by
      simp only [← List.take_add]
    _ = text := List.take_of_length_le (Nat.le_of_eq length)

end DateTime

/-! ## Reading timestamps -/

/-- The most characters that a numeric field may have. -/
def Field.fullWidth : Field → Nat
  | .year => 4
  | _ => 2

/-- The text of fields at their full widths. -/
def fullText (values : List (Field × Nat)) : List Char :=
  values.flatMap fun value => paddedDecimal value.1.fullWidth value.2

theorem Field.Spells.length_le {field : Field} {text : List Char} {value : Nat}
    (spells : field.Spells text value) (numeric : field ≠ .monthName) :
    text.length ≤ field.fullWidth := by
  cases spells with
  | filled => exact Nat.le_refl 2
  | name => exact absurd rfl numeric
  | digits width =>
      cases field <;> simp_all [widths, fullWidth] <;> omega

/-- In ASCII digits a field is written as its number. -/
theorem Field.Spells.eq_paddedDecimal {field : Field} {text : List Char}
    {value : Nat} (spells : field.Spells text value)
    (numeric : field ≠ .monthName) (digits : AreDigits text) :
    text = paddedDecimal text.length value := by
  have nonempty := spells.ne_nil
  cases spells with
  | digits => exact (paddedDecimal_numeral nonempty digits).symm
  | filled => cases digits ' ' List.mem_cons_self
  | name => exact absurd rfl numeric

/-- Fields without separators have no more characters than their full widths
allow.  ASCII digits that are as many can be divided among them in one way. -/
theorem Format.Spells.eq_fullText {fields : List Field} {text : List Char}
    {values : List (Field × Nat)} (numeric : .monthName ∉ fields)
    (spells : Format.Spells (fields.map .field) text values) :
    text.length ≤ (fields.map Field.fullWidth).sum ∧
      (text.length = (fields.map Field.fullWidth).sum → AreDigits text →
        text = fullText values) := by
  induction fields generalizing text values with
  | nil =>
      cases spells
      exact ⟨Nat.le_refl 0, fun _ _ => rfl⟩
  | cons field fields ih =>
      have numericHere := List.ne_of_not_mem_cons numeric
      have numericOthers := List.not_mem_of_not_mem_cons numeric
      rw [List.map_cons] at spells
      cases spells with
      | @field _ _ front rest value values here others =>
          have atMost := here.length_le (Ne.symm numericHere)
          obtain ⟨atMostOthers, exactOthers⟩ := ih numericOthers others
          rw [List.length_append, List.map_cons, List.sum_cons]
          refine ⟨Nat.add_le_add atMost atMostOthers, fun full digits => ?_⟩
          -- Where the whole is full, so is each part.
          have fullHere : front.length = field.fullWidth := by omega
          have fullOthers : rest.length = (fields.map Field.fullWidth).sum := by
            omega
          rcases List.forall_mem_append.mp digits with ⟨digitsHere, digitsOthers⟩
          have written := here.eq_paddedDecimal (Ne.symm numericHere) digitsHere
          rw [fullHere] at written
          rw [fullText, List.flatMap_cons, ← written,
            exactOthers fullOthers digitsOthers]
          rfl

theorem Format.isComplete_stampFormat : stampFormat.IsComplete where
  once := by decide
  month := by decide
  others field := by cases field <;> decide

/-- The values of a format's fields are the parts of the point in time that a
text expresses. -/
theorem Format.Expresses.exists_spells {format : Format} {text : List Char}
    {time : DateTime} (expresses : format.Expresses text time) :
    format.Spells text (format.fields.map fun field => (field, time.part field)) := by
  rcases expresses with ⟨values, spells, parts⟩
  have same : values =
      values.map fun value => (value.1, time.part value.1) := by
    rw [List.map_congr_left (g := id), List.map_id]
    rintro ⟨field, value⟩ member
    rw [parts field value member]
    rfl
  rw [← spells.fields_eq, List.map_map]
  exact same ▸ spells

theorem fullText_stampFormat (time : DateTime) :
    fullText (stampFormat.fields.map fun field => (field, time.part field)) =
      time.fourteenDigits := by
  change paddedDecimal 4 time.date.year ++ (twoDigits time.date.month ++
    (twoDigits time.date.day ++ (twoDigits time.hour ++
      (twoDigits time.minute ++ (twoDigits time.second ++ []))))) = _
  simp [DateTime.fourteenDigits]

/-- A text that expresses a point in time as timestamps do has fourteen
characters at most, and fourteen ASCII digits are those of the point in time. -/
theorem Format.Expresses.eq_fourteenDigits {text : List Char} {time : DateTime}
    (expresses : stampFormat.Expresses text time) :
    text.length ≤ 14 ∧
      (text.length = 14 → AreDigits text → text = time.fourteenDigits) := by
  have numeric : .monthName ∉ stampFormat.fields := by decide
  rw [← fullText_stampFormat]
  exact Format.Spells.eq_fullText numeric expresses.exists_spells

theorem looksLikeStamp_cases {text : List Char}
    (looks : looksLikeStamp text = true) :
    text.length = 15 ∨ text.length = 14 ∧ ∀ c ∈ text, isDigit c = true := by
  simp only [looksLikeStamp] at looks
  split at looks
  · rename_i ended
    left
    simp_all
  · right
    simpa using looks

/-- A text of ASCII characters is read as a point in time exactly if it is its
fourteen digits. -/
theorem parseTimestamp_eq_ok_iff {text : String} {time : DateTime}
    (ascii : ∀ c ∈ text.toList, c.toNat < 128) :
    parseTimestamp text = .ok time ↔ text.toList = time.fourteenDigits := by
  constructor
  · intro reads
    simp only [parseTimestamp] at reads
    split at reads
    · rename_i looks
      split at reads
      · rename_i parses
        cases reads
        have expresses :=
          Format.expresses_of_parse? Format.isComplete_stampFormat parses
        obtain ⟨atMost, exact⟩ := expresses.eq_fourteenDigits
        rcases looksLikeStamp_cases looks with longer | ⟨full, digits⟩
        · omega
        · apply exact full
          intro c inside
          exact isAsciiDigit_of_isDigit (ascii c inside) (digits c inside)
      · cases reads
    · cases reads
  · exact DateTime.parseTimestamp_of_fourteenDigits

/-! ## The correspondence -/

/-- The timestamp of a year that has four digits. -/
structure IsModernStamp (text : String) : Prop where
  names : IsStampText text.toList
  year : 1000 ≤ numberAt 0 4 text.toList

theorem isModernStamp_iff {text : String} :
    IsModernStamp text ↔
      ∃ time : DateTime, time.IsModern ∧ text = time.stamp := by
  constructor
  · rintro ⟨names, year⟩
    have written := DateTime.fourteenDigits_ofStampText names
    have modern : (DateTime.ofStampText names).IsModern := year
    refine ⟨_, modern, String.toList_injective ?_⟩
    rw [DateTime.toList_stamp modern, written]
  · rintro ⟨time, modern, rfl⟩
    have written := DateTime.toList_stamp modern
    refine ⟨written ▸ time.isStampText_fourteenDigits, ?_⟩
    rw [written, time.numberAt_fourteenDigits.1]
    exact modern

/--
A text of ASCII characters is read as a timestamp exactly if it is fourteen
digits that name a day of the calendar and a time of day.  Where years have four
digits, writing and reading undo each other on these texts and on points in
time, and the texts are ordered as the points in time that they are read as.
-/
theorem stamps_correspond :
    (∀ text : String, (∀ c ∈ text.toList, c.toNat < 128) →
      ((∃ time, parseTimestamp text = .ok time) ↔ IsStampText text.toList)) ∧
    (∀ text : String, IsModernStamp text →
      ∃ time : DateTime,
        time.IsModern ∧ parseTimestamp text = .ok time ∧ time.stamp = text) ∧
    (∀ time : DateTime, time.IsModern →
      IsModernStamp time.stamp ∧ parseTimestamp time.stamp = .ok time) ∧
    ∀ {text other : String} {time otherTime : DateTime},
      IsModernStamp text → parseTimestamp text = .ok time →
      IsModernStamp other → parseTimestamp other = .ok otherTime →
      (precedes text.toList other.toList = true ↔ time ≤ otherTime) := by
  refine ⟨?_, ?_, ?_, ?_⟩
  · intro text ascii
    simp only [parseTimestamp_eq_ok_iff ascii]
    constructor
    · rintro ⟨time, written⟩
      exact written ▸ time.isStampText_fourteenDigits
    · intro names
      exact ⟨_, (DateTime.fourteenDigits_ofStampText names).symm⟩
  · intro text stamp
    rcases isModernStamp_iff.mp stamp with ⟨time, modern, rfl⟩
    exact ⟨time, modern, DateTime.parseTimestamp_stamp modern, rfl⟩
  · intro time modern
    exact ⟨isModernStamp_iff.mpr ⟨time, modern, rfl⟩,
      DateTime.parseTimestamp_stamp modern⟩
  · intro text other time otherTime stamp reads stampToo readsToo
    rcases isModernStamp_iff.mp stamp with ⟨first, modern, rfl⟩
    rcases isModernStamp_iff.mp stampToo with ⟨second, modernToo, rfl⟩
    rw [DateTime.parseTimestamp_stamp modern] at reads
    rw [DateTime.parseTimestamp_stamp modernToo] at readsToo
    cases reads
    cases readsToo
    rw [DateTime.toList_stamp modern, DateTime.toList_stamp modernToo]
    exact DateTime.precedes_fourteenDigits _ _

/-- The last second of a leap day, and the midnight behind it. -/
theorem stamps_correspond_leapDay :
    (∃ time, parseTimestamp "20240229235959" = .ok time) ∧
    (¬ ∃ time, parseTimestamp "21000229235959" = .ok time) ∧
    ∃ time next : DateTime,
      time.stamp = "20240229235959" ∧ next.stamp = "20240301000000" ∧
      parseTimestamp time.stamp = .ok time ∧ time ≤ next ∧ ¬ next ≤ time := by
  obtain ⟨reads, writes, stamps, ordered⟩ := stamps_correspond
  have leapDay : IsModernStamp "20240229235959" :=
    ⟨by constructor <;> decide, by decide⟩
  have behind : IsModernStamp "20240301000000" :=
    ⟨by constructor <;> decide, by decide⟩
  rcases writes _ leapDay with ⟨time, modern, parses, written⟩
  rcases writes _ behind with ⟨next, -, parsesNext, writtenNext⟩
  refine ⟨(reads _ (by decide)).mpr leapDay.names, ?_, time, next, written,
    writtenNext, (stamps time modern).2, ?_, ?_⟩
  · rw [reads _ (by decide)]
    intro names
    exact absurd names.day.2 (by decide)
  · exact (ordered leapDay parses behind parsesNext).mp (by decide)
  · exact fun back => absurd
      ((ordered behind parsesNext leapDay parses).mpr back) (by decide)

end ClusterLog.Calendar
