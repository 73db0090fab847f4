import ClusterLog.Calendar.DateTime
import ClusterLog.Text.Integer

/-!
# Date formats

A date format is a list of fields, literal characters and gaps.  A field has several written shapes
that are tried in order; the first way to read the whole format counts, even if text is left over
after it, and text that is left over makes the date unreadable.
-/

namespace ClusterLog.Calendar

open ClusterLog.Text

/-- The parts of a written date. -/
inductive Field where
  | year
  | month
  | monthName
  | day
  | hour
  | minute
  | second
deriving DecidableEq

/-- A character of a written number. -/
inductive Glyph where
  /-- One of the digits `0` to `9` between two values. -/
  | between (low high : Nat)
  /-- A decimal digit of any script. -/
  | digit
  /-- A space that fills a number up. -/
  | space

/-- The digits that a character adds to a number, if the glyph allows it. -/
def Glyph.digits? : Glyph → Char → Option (List Nat)
  | .between low high, c => do
    let value ← digitValue? c
    if isAsciiDigit c && low ≤ value && value ≤ high then some [value] else none
  | .digit, c => (digitValue? c).map ([·])
  | .space, c => if c == ' ' then some [] else none

/-- Read glyphs at the beginning of a text. -/
def readGlyphs : List Glyph → List Char → Option (List Nat × List Char)
  | [], text => some ([], text)
  | _ :: _, [] => none
  | glyph :: glyphs, c :: text => do
    let first ← glyph.digits? c
    let (digits, rest) ← readGlyphs glyphs text
    return (first ++ digits, rest)

/-- The abbreviated names of the months. -/
def monthNames : List String :=
  ["jan", "feb", "mar", "apr", "may", "jun", "jul", "aug", "sep", "oct", "nov", "dec"]

/-- The written shapes of a numeric field, in the order in which they are tried. -/
def Field.shapes : Field → List (List Glyph)
  | .year => [[.digit, .digit, .digit, .digit]]
  | .month => [[.between 1 1, .between 0 2], [.between 0 0, .between 1 9], [.between 1 9]]
  | .monthName => []
  | .day => [
      [.between 3 3, .between 0 1], [.between 1 2, .digit], [.between 0 0, .between 1 9],
      [.between 1 9], [.space, .between 1 9]]
  | .hour => [[.between 2 2, .between 0 3], [.between 0 1, .digit], [.digit]]
  | .minute => [[.between 0 5, .digit], [.digit]]
  | .second => [[.between 6 6, .between 0 1], [.between 0 5, .digit], [.digit]]

/-- The ways to read a field at the beginning of a text: its value and the text after it. -/
def Field.readings (field : Field) (text : List Char) : List (Nat × List Char) :=
  match field with
  | .monthName =>
    let name := (text.take 3).map Char.toLower
    match monthNames.findIdx? (·.toList == name) with
    | some index => [(index + 1, text.drop 3)]
    | none => []
  | field => field.shapes.filterMap fun shape =>
      (readGlyphs shape text).map fun (digits, rest) => (digitsValue digits, rest)

/-- What a date format is made of. -/
inductive FormatItem where
  | field (field : Field)
  | literal (c : Char)
  /-- One or more blanks. -/
  | gap

/-- A date format. -/
abbrev Format := List FormatItem

/-- The texts after one or more leading blanks, the longest run first. -/
def afterBlanks (text : List Char) : List (List Char) :=
  match text with
  | c :: rest => if isBlank c then afterBlanks rest ++ [rest] else []
  | [] => []

/-- The first way to read a format at the beginning of a text: its fields in order and the text
after them. -/
def Format.read : Format → List Char → Option (List (Field × Nat) × List Char)
  | [], text => some ([], text)
  | .literal c :: items, text =>
    match text with
    | d :: rest => if d == c then Format.read items rest else none
    | [] => none
  | .gap :: items, text => (afterBlanks text).findSome? fun rest => Format.read items rest
  | .field field :: items, text =>
    (field.readings text).findSome? fun (value, rest) =>
      (Format.read items rest).map fun (values, left) => ((field, value) :: values, left)

/-- The point in time that fields describe. -/
def dateTimeOfFields? (fields : List (Field × Nat)) : Option DateTime := do
  let year ← fields.lookup .year
  let month ← (fields.lookup .month).or (fields.lookup .monthName)
  let day ← fields.lookup .day
  let hour ← fields.lookup .hour
  let minute ← fields.lookup .minute
  let second ← fields.lookup .second
  DateTime.of? year month day hour minute second

/-- Read a whole text as a date in a format. -/
def Format.parse? (format : Format) (text : List Char) : Option DateTime := do
  let (fields, rest) ← format.read text
  if rest.isEmpty then dateTimeOfFields? fields else none

/-! ## Faults -/

/-- Why a text is no date in a format. -/
inductive DateFault where
  /-- No beginning of the text has the format. -/
  | otherFormat
  /-- Text is left over after the date. -/
  | leftOver (rest : List Char)
  /-- The calendar has no such year. -/
  | noSuchYear
  /-- The month has no such day. -/
  | noSuchDay
  /-- The minute has no such second. -/
  | noSuchSecond
deriving DecidableEq

/-- What is wrong with the fields of a date: the year is looked at first, the second last. -/
def faultOfFields? (fields : List (Field × Nat)) : Option DateFault :=
  let value (field : Field) : Nat := (fields.lookup field).getD 0
  let month := if (fields.lookup .monthName).isSome then value .monthName else value .month
  if value .year = 0 then some .noSuchYear
  else if (Date.of? (value .year) month (value .day)).isNone then some .noSuchDay
  else if 60 ≤ value .second then some .noSuchSecond
  else none

/-- Why a text is no date in a format, if it is none. -/
def Format.fault? (format : Format) (text : List Char) : Option DateFault :=
  match format.read text with
  | none => some .otherFormat
  | some (fields, rest) => if rest.isEmpty then faultOfFields? fields else some (.leftOver rest)

end ClusterLog.Calendar
