import ClusterLog.Proofs.Calendar.Spelling
import ClusterLog.Proofs.Entry.Timestamps
import ClusterLog.Proofs.Pattern.Reading
import ClusterLog.Proofs.Severity

/-!
# Dates of records

A record is read as the invalid entry, or as one with a level and the timestamp
of the date that is written in it.  The timestamp has fourteen digits, and is
read back as the date, exactly if the year has four digits.
-/

namespace ClusterLog

open Calendar Text

/-! ## Timestamps -/

namespace Entry

/-- The timestamp has fourteen digits, and they say the point in time. -/
structure IsStamped (entry : Entry) (time : DateTime) : Prop where
  width : entry.timestamp.toList.length = 14
  digits : AreDigits entry.timestamp.toList
  date : entry.date? = some time

/-- The timestamp of a point in time has fourteen digits exactly if its year has
four. -/
theorem isStamped_iff {entry : Entry} {time : DateTime}
    (stamped : entry.timestamp = time.stamp) :
    entry.IsStamped time ↔ time.IsModern := by
  constructor
  · intro full
    by_contra ancient
    have year : (decimal time.date.year).length ≤ 3 :=
      (Nat.length_toDigits_le_iff (by decide) (by decide)).mpr
        (Nat.lt_of_not_le ancient)
    have width := full.width
    rcases time.valid with ⟨hour, minute, second⟩
    rw [stamped, DateTime.stamp, String.toList_ofList, DateTime.stampChars] at width
    simp only [List.length_append, DateTime.length_twoDigits time.month_lt,
      DateTime.length_twoDigits time.day_lt,
      DateTime.length_twoDigits (show time.hour < 100 by omega),
      DateTime.length_twoDigits (show time.minute < 100 by omega),
      DateTime.length_twoDigits (show time.second < 100 by omega)] at width
    omega
  · intro modern
    have written := DateTime.toList_stamp modern
    rw [← stamped] at written
    exact {
      width := written ▸ time.length_fourteenDigits
      digits := written ▸ time.areDigits_fourteenDigits
      date := DateTime.ofStamp?_fourteenDigits written }

/-! ## Places -/

/-- Where the date of a record stands: in its place in the layout, or, where the
layout does not recognise the record, in front of a comma or a severity name. -/
inductive HasDate (grammar : Layout.Grammar) (text : List Char) :
    Format → List Char → Prop
  | layout {captures : Captures}
      (recognised : grammar.pattern.matchWhole? text = some captures) :
      HasDate grammar text layoutFormat
        (capturedField grammar captures .timestamp)
  | keyword {before message : List Char} {severity : Severity}
      (foreign : grammar.pattern.matchWhole? text = none)
      (cut : cutAtKeyword? text = some (before, severity, message)) :
      HasDate grammar text keywordFormat (trim before)

variable {grammar : Layout.Grammar} {text : List Char}

theorem capturedField_isInfix {captures : Captures}
    (recognised : grammar.pattern.matchWhole? text = some captures)
    (field : Layout.Field) :
    capturedField grammar captures field <:+: text := by
  rw [capturedField]
  split
  · rename_i ordinal place
    refine (trim_isInfix _).trans ?_
    cases found : captures.lookup ordinal with
    | none => exact List.nil_infix
    | some part =>
        rcases List.lookup_eq_some_iff.mp found with ⟨front, behind, rfl, -⟩
        exact Pattern.isInfix_of_matchWhole? recognised
          (List.mem_append_right _ List.mem_cons_self)
  · exact List.nil_infix

/-- The text in front of a severity name or the first comma begins the record. -/
theorem prefix_of_cutAtKeyword? {before message : List Char}
    {severity : Severity}
    (cut : cutAtKeyword? text = some (before, severity, message)) :
    before <+: text := by
  have split : (text.span (· != ',')).1 <+: text := by
    rw [List.span_eq_takeWhile_dropWhile]
    exact List.takeWhile_prefix _
  simp only [cutAtKeyword?] at cut
  split at cut
  · cases cut
    exact split
  · rcases Option.map_eq_some_iff.mp cut with ⟨⟨date, _, behind⟩, last, same⟩
    cases same
    have inside := Severity.lastKeyword?_eq_some last
    rw [List.append_assoc] at inside
    exact (List.prefix_append _ _).trans (inside ▸ split)

theorem HasDate.isInfix {format : Format} {date : List Char}
    (stands : HasDate grammar text format date) :
    date <:+: text := by
  cases stands with
  | layout recognised => exact capturedField_isInfix recognised _
  | keyword foreign cut =>
      exact (trim_isInfix _).trans (prefix_of_cutAtKeyword? cut).isInfix

/-! ## Records -/

/-- An entry of a date that the text has, and the time that it says. -/
structure IsDatedBy (grammar : Layout.Grammar) (text : List Char)
    (format : Format) (date : List Char) (time : DateTime) (entry : Entry) :
    Prop where
  stands : HasDate grammar text format date
  expressed : format.Expresses date time
  only : ∀ other, format.Expresses date other → other = time
  level : entry.level ≠ ""
  timestamp : entry.timestamp = time.stamp

theorem ofFields_cases {format : Format} {level date : List Char}
    (complete : format.IsComplete) (delimited : format.IsDelimited)
    (leveled : level ≠ []) (stands : HasDate grammar text format date)
    (message : List Char) :
    ofFields format level date message = invalid ∨
      ∃ time, IsDatedBy grammar text format date time
        (ofFields format level date message) := by
  rw [ofFields]
  cases reads : format.parse? date with
  | none => exact Or.inl rfl
  | some time =>
      have expressed := Format.expresses_of_parse? complete reads
      refine Or.inr ⟨time, stands, expressed, ?_, ?_, rfl⟩
      · intro other expresses
        exact expresses.unique complete delimited expressed
      · simpa using leveled

/-- Every record is read as the invalid entry or as one of a date in it. -/
theorem ofText_cases (grammar : Layout.Grammar) (text : List Char) :
    ofText grammar text = invalid ∨
      ∃ format date time,
        IsDatedBy grammar text format date time (ofText grammar text) := by
  rw [ofText]
  split
  · exact Or.inl rfl
  · rw [ofLayout?]
    cases recognised : grammar.pattern.matchWhole? text with
    | some captures =>
        simp only [Option.map_some, Option.some_or, Option.getD_some]
        split
        · exact Or.inl rfl
        · rename_i present
          rw [Bool.or_eq_true, not_or] at present
          refine (ofFields_cases Format.isComplete_layoutFormat
            Format.isDelimited_layoutFormat ?_ (.layout recognised) _).imp_right
            fun found => ⟨_, _, found⟩
          simpa using present.1
    | none =>
        rw [Option.map_none, Option.none_or, ofKeyword?]
        cases cut : cutAtKeyword? text with
        | none => exact Or.inl rfl
        | some found =>
            rcases found with ⟨before, severity, message⟩
            simp only [Option.map_some, Option.getD_some]
            split
            · exact Or.inl rfl
            · refine (ofFields_cases Format.isComplete_keywordFormat
                Format.isDelimited_keywordFormat ?_ (.keyword recognised cut)
                _).imp_right fun found => ⟨_, _, found⟩
              cases severity <;> simp [Severity.name]

/--
With every layout every text is read as the invalid entry, or as one with a
level and the timestamp of the one date-time that is written in its place in the
text.  The timestamp is fourteen digits which are read back as this date-time
exactly if the year has four digits.
-/
theorem ofText_compile (layout : String) (text : List Char) :
    let grammar := Layout.compile layout
    let entry := ofText grammar text
    entry = invalid ∨
      ∃ format date time,
        HasDate grammar text format date ∧
        date <:+: text ∧
        (∀ other, format.Expresses date other ↔ other = time) ∧
        entry.level ≠ "" ∧
        entry.timestamp = time.stamp ∧
        (entry.IsStamped time ↔ time.IsModern) := by
  intro grammar entry
  rcases ofText_cases grammar text with
    unread | ⟨format, date, time, stands, expressed, only, level, timestamp⟩
  · exact Or.inl unread
  · refine Or.inr ⟨format, date, time, stands, stands.isInfix, ?_, level,
      timestamp, isStamped_iff timestamp⟩
    exact fun other => ⟨only other, fun same => same ▸ expressed⟩

/-- A record of the year 999 in the stock layout. -/
def earlyRecord : String :=
  "INFO  [main] 0999-01-31 09:30:00,000 A.java:1 - hello"

/-- The timestamp of a record may be shorter than fourteen digits, and be read as
another date than the one that is written. -/
theorem ofText_earlyRecord :
    let entry := ofText (Layout.compile Layout.stock) earlyRecord.toList
    entry = {
      level := "INFO"
      message := some "A.java:1 - hello"
      timestamp := "9990131093000" } ∧
    entry ≠ invalid ∧
    (¬ ∃ time, entry.IsStamped time) ∧
    entry.date?.map (·.date.year) = some 9990 := by
  have reads : ofText (Layout.compile Layout.stock) earlyRecord.toList = {
      level := "INFO"
      message := some "A.java:1 - hello"
      timestamp := "9990131093000" } := by
    decide +kernel
  rw [reads]
  refine ⟨rfl, by decide, ?_, by decide +kernel⟩
  rintro ⟨time, width, -⟩
  revert width
  decide

end Entry

end ClusterLog
