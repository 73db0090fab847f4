import ClusterLog.Calendar.Format
import ClusterLog.Text.Quoted

/-!
# Written dates

The timestamps of the index are fourteen digits, `yyyyMMddHHmmss`, so that their order as text is
their order in time.  Log lines write dates in one of two other formats.  Years below 1000 are
written without leading zeros, and a timestamp of such a year is shorter.
-/

namespace ClusterLog.Calendar

open ClusterLog.Text

/-- The format of index timestamps. -/
def stampFormat : Format :=
  [.field .year, .field .month, .field .day, .field .hour, .field .minute, .field .second]

/-- The format of `%date` conversions once the milliseconds are cut off: `2020-01-31 09:30:00`. -/
def layoutFormat : Format := [
  .field .year, .literal '-', .field .month, .literal '-', .field .day, .gap,
  .field .hour, .literal ':', .field .minute, .literal ':', .field .second]

/-- The format of dates in front of a severity keyword: `31 Jan 2020 09:30:00`. -/
def keywordFormat : Format := [
  .field .day, .gap, .field .monthName, .gap, .field .year, .gap,
  .field .hour, .literal ':', .field .minute, .literal ':', .field .second]

/-- A number with at least two digits. -/
def twoDigits (value : Nat) : List Char :=
  paddedDecimal 2 value

namespace DateTime

/-- The characters of a timestamp. -/
def stampChars (time : DateTime) : List Char :=
  decimal time.date.year ++ twoDigits time.date.month ++ twoDigits time.date.day ++
    twoDigits time.hour ++ twoDigits time.minute ++ twoDigits time.second

/-- The timestamp `yyyyMMddHHmmss` of a point in time. -/
def stamp (time : DateTime) : String :=
  String.ofList time.stampChars

/-- The day `yyyy-MM-dd` of a point in time. -/
def dayText (time : DateTime) : String :=
  String.ofList (decimal time.date.year ++ ['-'] ++ twoDigits time.date.month ++ ['-'] ++
    twoDigits time.date.day)

/-- The notation `yyyy-MM-ddTHH:mm:ss` with a year of four digits. -/
def iso (time : DateTime) : String :=
  String.ofList (paddedDecimal 4 time.date.year ++ ['-'] ++ twoDigits time.date.month ++ ['-'] ++
    twoDigits time.date.day ++ ['T'] ++ twoDigits time.hour ++ [':'] ++ twoDigits time.minute ++
    [':'] ++ twoDigits time.second)

/-- Read the notation `yyyy-MM-ddTHH:mm:ss`; a fraction of a second after it is dropped. -/
def ofIso? (text : String) : Option DateTime :=
  let whole := text.toList.takeWhile (· != '.')
  Format.parse? [
    .field .year, .literal '-', .field .month, .literal '-', .field .day, .literal 'T',
    .field .hour, .literal ':', .field .minute, .literal ':', .field .second] whole

end DateTime

/-- The point in time of a timestamp, read leniently: a field may have fewer digits where the
others still fit. -/
def ofStamp? (text : String) : Option DateTime :=
  stampFormat.parse? text.toList

/-- What is said about a text that is no timestamp. -/
def stampComplaint (text : String) : String :=
  match stampFormat.fault? text.toList with
  | some .otherFormat => "time data " ++ quoted text ++ " does not match format '%Y%m%d%H%M%S'"
  | some (.leftOver rest) => "unconverted data remains: " ++ String.ofList rest
  | some .noSuchYear => "year 0 is out of range"
  | some .noSuchDay => "day is out of range for month"
  | some .noSuchSecond => "second must be in 0..59"
  | none => ""

/-- Whether a text is fourteen digits, apart from one line feed at its end. -/
def looksLikeStamp (text : List Char) : Bool :=
  let body := if text.length == 15 && text.getLast? == some '\n' then text.dropLast else text
  body.length == 14 && body.all isDigit

end ClusterLog.Calendar
