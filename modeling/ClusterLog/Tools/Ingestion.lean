import ClusterLog.Tools.Confinement
import ClusterLog.Workspace

/-!
# The ingestion tool

Rebuilds an index from an artifacts directory, saves the date range of each host in it, and says
from when on each host is reported.
-/

namespace ClusterLog

/-- What the ingestion did for one node. -/
structure NodeReport where
  summary : NodeSummary
  /-- The start of the host's report window, as a timestamp. -/
  windowStart : Option String
  /-- The logs of the host go back beyond its report window. -/
  isTruncated : Bool

/-- What the ingestion did. -/
structure IngestionReport where
  index : Path
  documents : Nat
  days : Int
  nodes : List NodeReport

namespace Work

/-- A path that a tool is given. -/
def confined (text : String) : Work Path := do
  let workspace ← get
  confine workspace.environment workspace.accounts workspace.tree.current text

/-- The settings of an index that is taken into use for one call. -/
def freshConfig : Work IndexConfig := do
  IndexConfig.resolve {} (← get).environment

/-- The number of days that a report covers. -/
def days (days : Option Int) : Work Int := do
  reportDays days (← get).environment

/-- Rebuild an index and save the date ranges of its hosts. -/
def rebuildWithRanges (index : Path) (config : IndexConfig) (root : Path) :
    Work (List NodeSummary × LogRanges) := do
  let summaries ← rebuild index config root
  let ranges ← (logRanges summaries : Except Failure LogRanges)
  setTree (← (← get).tree.saveRanges index ranges)
  return (summaries, ranges)

/-- Rebuild an index from an artifacts directory. -/
def ingestLogs (artifacts index : String) (daysAsked : Option Int) : Work IngestionReport := do
  let root ← confined artifacts
  let index ← confined index
  let config ← freshConfig
  let days ← days daysAsked
  let (summaries, ranges) ← rebuildWithRanges index config root
  let window ← (reportWindow ranges days : Except Failure ReportWindow)
  let truncated ← (truncatedHosts ranges days : Except Failure (List (String × Bool)))
  let nodes := summaries.map fun summary =>
    { summary
      windowStart := (window.lookup summary.host).map (·.stamp)
      isTruncated := (truncated.lookup summary.host).getD false : NodeReport }
  return { index, documents := ← (← get).tree.documentCount index, days, nodes }

end Work

end ClusterLog
