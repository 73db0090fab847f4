import ClusterLog.Diagnostics.DroppedMessages
import ClusterLog.Diagnostics.GcPause
import ClusterLog.Tools.Ingestion
import ClusterLog.Tools.Limits

/-!
# The search tools

One tool searches an index, the others search it for diagnostic messages and summarise them.  All of
them look at each host's report window only, which is computed from the saved date ranges.
-/

namespace ClusterLog

open Text

/-- The pauses that were found. -/
structure GcReport where
  pauses : List GcPause
  days : List GcDay

/-- The number of pauses. -/
def GcReport.count (report : GcReport) : Nat :=
  report.pauses.length

/-- The number of long pauses. -/
def GcReport.longPauses (report : GcReport) : Nat :=
  report.pauses.countP (·.isLong)

/-- The dropped messages of one type that were found. -/
structure DroppedSummary where
  messageType : String
  count : Nat
  /-- The search found as many entries as it was allowed to, so some may be missing. -/
  hitLimit : Bool
  hosts : List DroppedTotals

/-- The query for pauses. -/
def gcQuery : String := "GCInspector.java"

/-- The type of dropped messages that a tool is asked for unless it is told otherwise. -/
def defaultMessageType : String := "MUTATION"

/-- The query for dropped messages of a type. -/
def droppedQuery (messageType : String) : String :=
  "\"" ++ messageType ++ " messages were dropped\""

/-- The message type that a text names, in any case and with blanks around it. -/
def messageTypeOf (text : String) : Except Failure String :=
  let name := upper (trim text.toList)
  if name.isEmpty || !name.all DroppedReport.isTypeChar then
    .error (.invalidMessageType (String.ofList name))
  else
    .ok (String.ofList name)

namespace Work

/-- Search an index inside the report window of each host. -/
def searchWindow (index : Path) (daysAsked : Option Int) (search : Search) : Work (List Entry) := do
  let ranges ← (← get).tree.loadRanges index
  let days ← days daysAsked
  let window ← (reportWindow ranges days : Except Failure ReportWindow)
  (← (← get).tree.existingStore index).search window search

/-- Search the index that a tool is given. -/
def searchEntries (index : String) (daysAsked : Option Int) (search : Search) :
    Work (List Entry) := do
  let index ← confined index
  let _ ← freshConfig
  searchWindow index daysAsked search

/-- Search an index. -/
def searchLogs (index query : String) (level : Option String) (limit daysAsked : Option Int) :
    Work (List Entry) := do
  let limit ← (resolveLimit limit defaultLimit : Except Failure Int)
  let severity ← (levelOf level : Except Failure (Option Severity))
  searchEntries index daysAsked { query, level := severity.map (·.name), limit }

/-- Search an index for pauses. -/
def gcPauses (index : String) (limit daysAsked : Option Int) : Work GcReport := do
  let limit ← (resolveLimit limit hardLimit : Except Failure Int)
  let entries ← searchEntries index daysAsked { query := gcQuery, limit }
  let found ← (entries.mapM GcPause.ofEntry : Except Failure (List (Option GcPause)))
  let pauses := found.filterMap id
  return { pauses, days := gcDays pauses }

/-- Search an index for dropped messages of a type. -/
def droppedMessages (index messageType : String) (limit daysAsked : Option Int) :
    Work DroppedSummary := do
  let messageType ← (messageTypeOf messageType : Except Failure String)
  let limit ← (resolveLimit limit hardLimit : Except Failure Int)
  let entries ← searchEntries index daysAsked { query := droppedQuery messageType, limit }
  let found ← (entries.mapM DroppedReport.ofEntry : Except Failure (List (Option DroppedReport)))
  let reports := (found.filterMap id).filter (·.messageType == messageType)
  return {
    messageType
    count := reports.length
    hitLimit := decide ((entries.length : Int) = limit)
    hosts := droppedTotals reports }

end Work

end ClusterLog
