import ClusterLog.Proofs.Entry.Records
import ClusterLog.Proofs.Entry.StockText

/-!
# Records of the stock layout

Log records as the stock layout writes them, and their entries.  The main
theorem says that the entries of the physical lines of any records are the
entries of these records, one for each and in order.

The thread name is the part that a reader could cut wrongly: it may hold
brackets, commas, dates and severity names.  It ends at the first closing
bracket with a blank behind it, which is why no bracket inside the name may
have one.
-/

namespace ClusterLog

open Text Calendar

/-- A log record, with what the stock layout promises about its parts. -/
structure StockRecord where
  level : Severity
  thread : List Char
  time : DateTime
  /-- The digits behind the comma of the date. -/
  fraction : List Char
  /-- The file and line that wrote the record. -/
  location : List Char
  /-- The first line of the message. -/
  message : List Char
  /-- The other lines of the message. -/
  continuation : List (List Char)
  thread_oneLine : IsOneLine thread
  thread_closed : Layout.IsClosedName thread
  modern : 1000 ≤ time.date.year
  fraction_digits : ∀ c ∈ fraction, isAsciiDigit c = true
  location_oneLine : IsOneLine location
  message_oneLine : IsOneLine message
  continuation_oneLine : ∀ line ∈ continuation, IsOneLine line
  continuation_quiet : ∀ line ∈ continuation,
    ∀ severity : Severity, ¬ severity.name.toList <:+: line

namespace StockRecord

/-- The level, filled up with spaces to five characters. -/
def paddedLevel (record : StockRecord) : List Char :=
  record.level.name.toList ++
    List.replicate (5 - record.level.name.length) ' '

/-- What stands behind the milliseconds in the first line. -/
def firstTail (record : StockRecord) : List Char :=
  ' ' :: (record.location ++ " - ".toList ++ record.message)

/-- The first physical line of a record. -/
def firstLine (record : StockRecord) : List Char :=
  record.paddedLevel ++ ' ' :: '[' :: (record.thread ++ ']' :: ' ' ::
    (record.time.layoutChars ++ ',' :: (record.fraction ++
      record.firstTail)))

/-- The physical lines of a record. -/
def lines (record : StockRecord) : List (List Char) :=
  record.firstLine :: record.continuation

/-- A record as the stock layout writes it. -/
def render (record : StockRecord) : List Char :=
  joinLines record.lines

/-- The message of a record as its entry keeps it, before trimming. -/
def rawMessage (record : StockRecord) : List Char :=
  record.location ++ " - ".toList ++
    ['\n'].intercalate (record.message :: record.continuation)

/-- The entry of a record. -/
def entry (record : StockRecord) : Entry where
  level := record.level.name
  message := some (String.ofList (trim record.rawMessage))
  timestamp := String.ofList record.time.fourteenDigits

/-! ## Physical lines -/

theorem isOneLine_layoutChars (time : DateTime) :
    IsOneLine time.layoutChars := by
  intro c inside
  rcases DateTime.mem_layoutChars inside with digit | rfl | rfl | rfl
  · constructor <;> rintro rfl <;> simp [isAsciiDigit] at digit
  all_goals decide

theorem isOneLine_firstLine (record : StockRecord) :
    IsOneLine record.firstLine := by
  have level : IsOneLine record.level.name.toList := by
    cases record.level <;> decide
  have padding : IsOneLine
      (List.replicate (5 - record.level.name.length) ' ') := by
    intro c inside
    rw [List.eq_of_mem_replicate inside]
    decide
  have fraction : IsOneLine record.fraction := by
    intro c inside
    have digit := record.fraction_digits c inside
    constructor <;> rintro rfl <;> simp [isAsciiDigit] at digit
  have tail : IsOneLine record.firstTail :=
    .cons (by decide)
      ((record.location_oneLine.append (by decide)).append
        record.message_oneLine)
  have date : IsOneLine (record.time.layoutChars ++ ',' ::
      (record.fraction ++ record.firstTail)) :=
    (isOneLine_layoutChars _).append
      (.cons (by decide) (fraction.append tail))
  have thread : IsOneLine (record.thread ++ ']' :: ' ' ::
      (record.time.layoutChars ++ ',' ::
        (record.fraction ++ record.firstTail))) :=
    record.thread_oneLine.append
      (.cons (by decide) (.cons (by decide) date))
  exact (level.append padding).append
    (.cons (by decide) (.cons (by decide) thread))

theorem isOneLine_of_mem_lines (record : StockRecord) :
    ∀ line ∈ record.lines, IsOneLine line := by
  intro line member
  rcases List.mem_cons.mp member with rfl | other
  · exact record.isOneLine_firstLine
  · exact record.continuation_oneLine line other

/-- The lines of a record form a block: only the first one has a severity
name that makes it begin a record. -/
def block (record : StockRecord) : RecordLines where
  first := record.firstLine
  more := record.continuation
  first_starts := by
    have oneLine := record.isOneLine_firstLine
    rw [firstLine, paddedLevel, List.append_assoc] at oneLine ⊢
    exact startsRecord_name oneLine
  first_whole := withoutLineEnd_of_oneLine record.isOneLine_firstLine
  more_continue := fun line member =>
    ⟨withoutLineEnd_of_oneLine (record.continuation_oneLine line member),
      startsRecord_eq_false (record.continuation_quiet line member)⟩

@[simp]
theorem lines_block (record : StockRecord) :
    record.block.lines = record.lines := rfl

/-! ## Entries -/

theorem joinLines_eq (first : List Char) (lines : List (List Char)) :
    first ++ '\n' :: joinLines lines =
      ['\n'].intercalate (first :: lines) ++ ['\n'] := by
  induction lines generalizing first with
  | nil => simp [joinLines]
  | cons line lines ih =>
      have split : joinLines (line :: lines) =
          line ++ '\n' :: joinLines lines := by
        simp [joinLines]
      rw [split, ih]
      simp [List.intercalate]

/-- A record as one text, with its message and line ends behind the date. -/
def asText (record : StockRecord) : StockText where
  level := record.level
  thread := record.thread
  time := record.time
  fraction := record.fraction
  tail := record.rawMessage ++ ['\n']
  thread_oneLine := record.thread_oneLine
  thread_closed := record.thread_closed
  modern := record.modern
  fraction_digits := record.fraction_digits

theorem render_asText (record : StockRecord) :
    record.asText.render = record.render := by
  have lines := joinLines_eq record.message record.continuation
  simp [asText, StockText.render, StockText.padding, StockText.behind, render,
    StockRecord.lines, firstLine, paddedLevel, firstTail, rawMessage, ← lines,
    joinLines]

/-- The text of a record is read as its entry. -/
theorem ofText_render (record : StockRecord) :
    Entry.ofText Layout.stockGrammar record.render = record.entry := by
  have feed : isBlank '\n' = true := rfl
  rw [← render_asText, StockText.ofText_stockGrammar]
  simp [asText, StockText.entry, entry, trim_append_singleton feed]

/-- Physical lines whose texts are the lines of records have the entries of
these records. -/
theorem entriesOfLines_of_lines {physical : List (List Char)}
    {records : List StockRecord}
    (consists : physical.map withoutLineEnd = records.flatMap (·.lines)) :
    entriesOfLines (Layout.compile Layout.stock) physical =
      records.map (·.entry) := by
  have blocks : physical.map withoutLineEnd =
      (records.map (·.block)).flatMap (·.lines) := by
    simp [consists, List.flatMap_map]
  have texts : recordTexts physical = records.map (·.render) := by
    rw [RecordLines.recordTexts_eq blocks]
    simp [render]
  have grammar : Layout.compile Layout.stock = Layout.stockGrammar := by
    simp [Layout.compile]
  rw [entriesOfLines, texts, grammar]
  simp [ofText_render]

/--
The records that the stock layout writes come back as their entries, one for
each record and in order: from the text as a file holds it, and from its lines
without their line ends.
-/
theorem entriesOfLines_stockRecords (records : List StockRecord) :
    entriesOfLines (Layout.compile Layout.stock)
        (fileLines (records.flatMap (·.render))) =
      records.map (·.entry) ∧
    entriesOfLines (Layout.compile Layout.stock)
        (records.flatMap (·.lines)) =
      records.map (·.entry) := by
  have oneLine : ∀ line ∈ records.flatMap (·.lines), IsOneLine line := by
    intro line member
    rcases List.mem_flatMap.mp member with ⟨record, -, inside⟩
    exact record.isOneLine_of_mem_lines line inside
  have text : records.flatMap (·.render) =
      joinLines (records.flatMap (·.lines)) := by
    simp [render, joinLines, List.flatMap_assoc]
  constructor
  · rw [text, fileLines_joinLines oneLine]
    exact entriesOfLines_of_lines
      (map_withoutLineEnd_append oneLine (by decide))
  · have whole : (records.flatMap (·.lines)).map (· ++ []) =
        records.flatMap (·.lines) := by simp
    rw [← whole]
    exact entriesOfLines_of_lines
      (map_withoutLineEnd_append oneLine (by simp))

/-- A record whose thread name holds brackets, a comma and a severity name, and
whose message has two lines. -/
def bracketed : StockRecord where
  level := .warn
  thread := "A:[1], ERROR]".toList
  time := ⟨⟨2020, 2, 29, by decide⟩, 23, 59, 58, by decide⟩
  fraction := "007".toList
  location := "A.java:1".toList
  message := " first, [x] ".toList
  continuation := ["  at b]".toList, []]
  thread_oneLine := by decide
  thread_closed := by
    intro c blank inside
    have comma : c = ',' := by
      simpa [List.infix_cons_iff, List.prefix_cons_iff] using inside
    rw [comma] at blank
    exact absurd blank (by decide)
  modern := by decide
  fraction_digits := by decide
  location_oneLine := by decide
  message_oneLine := by decide
  continuation_oneLine := by decide
  continuation_quiet := by
    have quiet : ∀ line ∈ ["  at b]".toList, []],
        Severity.firstKeyword? line = none := by decide
    exact fun line member =>
      Severity.firstKeyword?_eq_none_iff.mp (quiet line member)

theorem entriesOfLines_bracketed :
    entriesOfLines (Layout.compile Layout.stock)
        ["WARN  [A:[1], ERROR]] 2020-02-29 23:59:58,007 A.java:1 -  first, [x] \n".toList,
          "  at b]\n".toList, "\n".toList] =
      [{ level := "WARN", message := some "A.java:1 -  first, [x] \n  at b]",
         timestamp := "20200229235958" }] :=
  (entriesOfLines_stockRecords [bracketed]).1

end StockRecord

end ClusterLog
