import ClusterLog.Window

/-!
# Write statistics

What became of the entries of one write, and the dates between which its documents lie.
-/

namespace ClusterLog

open Calendar

/-- What became of the entries of one write. -/
structure WriteStatistics where
  /-- The timestamp of the first entry whose date can be read. -/
  minTimestamp : Option String := none
  /-- The timestamp of the last document that was written. -/
  maxTimestamp : Option String := none
  /-- Entries with a timestamp. -/
  valid : Nat := 0
  /-- Entries without a timestamp, or with one that cannot be read. -/
  skipped : Nat := 0
  /-- Entries that were dropped as noise. -/
  noise : Nat := 0
  /-- Documents that were written. -/
  written : Nat := 0
deriving DecidableEq

/-- The date of an optional timestamp; an empty timestamp is none. -/
def dateOfTimestamp (timestamp : Option String) : Except Failure (Option DateTime) :=
  match timestamp with
  | none => .ok none
  | some text =>
    if text.isEmpty then
      .ok none
    else
      match ofStamp? text with
      | some date => .ok (some date)
      | none => .error (.unreadableDate text)

namespace WriteStatistics

/-- The date of the first entry. -/
def minDate (statistics : WriteStatistics) : Except Failure (Option DateTime) :=
  dateOfTimestamp statistics.minTimestamp

/-- The date of the last document. -/
def maxDate (statistics : WriteStatistics) : Except Failure (Option DateTime) :=
  dateOfTimestamp statistics.maxTimestamp

end WriteStatistics

end ClusterLog
