import ClusterLog.Appender.Basic
import ClusterLog.Index.Statistics

/-!
# Ingestion summaries

What the ingestion of a node and of a cluster did, and the date range of each host's logs.
-/

namespace ClusterLog

open Calendar

/-- The extreme one of some dates under a choice between two; none of no dates. -/
def extremeDate (choose : DateTime → DateTime → DateTime) : List DateTime → Option DateTime
  | [] => none
  | first :: others => some (others.foldl choose first)

/-- What the ingestion of one node did. -/
structure NodeSummary where
  host : String
  appender : Appender
  /-- The statistics of the files that were indexed, by path, in the order of processing. -/
  files : List (String × WriteStatistics) := []
  /-- The files that repeat another one. -/
  duplicates : List String := []
deriving DecidableEq

namespace NodeSummary

/-- The date of the first entry of any file. -/
def minDate (summary : NodeSummary) : Except Failure (Option DateTime) := do
  let dates ← summary.files.mapM fun file => file.2.minDate
  return extremeDate DateTime.earlier (dates.filterMap id)

/-- The date of the last document of any file. -/
def maxDate (summary : NodeSummary) : Except Failure (Option DateTime) := do
  let dates ← summary.files.mapM fun file => file.2.maxDate
  return extremeDate DateTime.later (dates.filterMap id)

/-- The date range of a node's logs, if any of its entries was indexed. -/
def range? (summary : NodeSummary) : Except Failure (Option DateRange) := do
  match ← summary.minDate, ← summary.maxDate with
  | some first, some last => return some ⟨first, last⟩
  | _, _ => return none

end NodeSummary

/-- The smallest range that covers two ranges. -/
def DateRange.cover (left right : DateRange) : DateRange where
  first := DateTime.earlier left.first right.first
  last := DateTime.later left.last right.last

/-- Add the range of a host to the ranges so far. -/
def LogRanges.extend (ranges : LogRanges) (host : String) (range : DateRange) : LogRanges :=
  if ranges.any (·.1 == host) then
    ranges.map fun (known, before) => (known, if known == host then range.cover before else before)
  else
    ranges ++ [(host, range)]

/-- The date range of each host in the summaries of a cluster's nodes. -/
def logRangesFrom (ranges : LogRanges) : List NodeSummary → Except Failure LogRanges
  | [] => .ok ranges
  | summary :: others => do
    match ← summary.range? with
    | some range => logRangesFrom (LogRanges.extend ranges summary.host range) others
    | none => logRangesFrom ranges others

/-- The date range of each host with at least one indexed entry. -/
def logRanges (summaries : List NodeSummary) : Except Failure LogRanges :=
  logRangesFrom [] summaries

end ClusterLog
