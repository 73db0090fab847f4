import ClusterLog.Calendar.Stamp
import ClusterLog.Failure

/-!
# Report windows

A report covers the last days of each host's logs.  The window of a host starts a number of days
before its last entry, but not before its first one; an entry is inside if it is later than that.
-/

namespace ClusterLog

open Calendar Text

/-- The dates of the first and the last entry of a log. -/
structure DateRange where
  first : DateTime
  last : DateTime
deriving DecidableEq

/-- The date ranges of hosts. -/
abbrev LogRanges := List (String × DateRange)

/-- The start of the report window of each host that has one. -/
abbrev ReportWindow := List (String × DateTime)

/-- The point in time of an index timestamp. -/
def parseTimestamp (text : String) : Except Failure DateTime :=
  if looksLikeStamp text.toList then
    match ofStamp? text with
    | some time => .ok time
    | none => .error (.unreadableDate text)
  else
    .error .malformedTimestamp

namespace DateRange

/-- The point in time a number of days before the last entry. -/
def lookback (range : DateRange) (days : Int) : Except Failure DateTime :=
  match range.last.minusDays? days with
  | some time => .ok time
  | none => .error .dateOutOfRange

/-- The start of the window that covers a number of days. -/
def windowStart (range : DateRange) (days : Int) : Except Failure DateTime := do
  let start ← range.lookback days
  return DateTime.later start range.first

/-- Whether the log goes back to or beyond the start of the days that are covered. -/
def isTruncated (range : DateRange) (days : Int) : Except Failure Bool := do
  let start ← range.lookback days
  return !decide (start < range.first)

end DateRange

/-- The report window of hosts. -/
def reportWindow (ranges : LogRanges) (days : Int) : Except Failure ReportWindow :=
  if days < 0 then
    .error .negativeWindow
  else
    ranges.mapM fun (host, range) => do return (host, ← range.windowStart days)

/-- For each host whether its log goes back beyond the window. -/
def truncatedHosts (ranges : LogRanges) (days : Int) : Except Failure (List (String × Bool)) :=
  ranges.mapM fun (host, range) => do return (host, ← range.isTruncated days)

end ClusterLog
