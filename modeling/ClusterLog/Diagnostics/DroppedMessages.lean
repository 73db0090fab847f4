import ClusterLog.Diagnostics.Reading
import ClusterLog.Diagnostics.Tally

/-!
# Dropped messages

The summaries of dropped messages that log entries report, and their totals per host.
-/

namespace ClusterLog

open Text Calendar Diagnostics

/-- A report of dropped messages of one type. -/
structure DroppedReport where
  messageType : String
  internalDrops : Int
  crossNodeDrops : Int
  date : DateTime
  host : String
deriving DecidableEq

namespace DroppedReport

/-- The characters of message types. -/
def isTypeChar (c : Char) : Bool :=
  isAsciiUpper c || c == '_'

/-- The text after one of several literal beginnings. -/
def dropEither? (first second : String) (text : List Char) : Option (List Char) :=
  (dropLiteral? first.toList text).or (dropLiteral? second.toList text)

/-- The digits of the internal and the cross-node drops in the rest of a report after its type. -/
def drops? (text : List Char) : Option (List Char × List Char) := do
  let rest ← dropLiteral? " messages were dropped in ".toList text
  let rest ← dropEither? "last" "the last" rest
  let rest ← dropLiteral? [' '] rest
  let (_, rest) ← readRun? isDigit rest
  let rest ← dropLiteral? [' '] rest
  let rest ← dropEither? "ms" "s" rest
  let rest ← dropLiteral? ": ".toList rest
  let (internal, rest) ← readRun? isDigit rest
  let rest ← dropLiteral? " internal and ".toList rest
  let (crossNode, rest) ← readRun? isDigit rest
  let rest ← dropLiteral? " cross node. Mean internal dropped latency: ".toList rest
  let (_, rest) ← readRun? isDigit rest
  let rest ← dropLiteral? " ms and Mean cross-node dropped latency: ".toList rest
  let (_, rest) ← readRun? isDigit rest
  let _ ← dropLiteral? " ms".toList rest
  return (internal, crossNode)

/-- The type and the digits of the first report in a message. -/
def parts? (text : List Char) : Option (List Char × List Char × List Char) :=
  firstReading? (fun before rest => do
    let type := (before.takeWhile isTypeChar).reverse
    if type.isEmpty then none
    else
      let (internal, crossNode) ← drops? rest
      return (type, internal, crossNode)) text

/-- The report of dropped messages in an entry, if there is one. -/
def ofEntry (entry : Entry) : Except Failure (Option DroppedReport) :=
  match parts? entry.messageText.toList with
  | none => .ok none
  | some (type, internal, crossNode) => do
    let internalDrops ← number internal
    let crossNodeDrops ← number crossNode
    let date ← dateOf entry
    return some {
      messageType := String.ofList type, internalDrops, crossNodeDrops, date
      host := hostOf entry }

end DroppedReport

/-- The dropped messages of one host. -/
structure DroppedTotals where
  host : String
  messages : Nat
  internalDrops : Int
  crossNodeDrops : Int
  hoursWithDrops : Nat
deriving DecidableEq

namespace DroppedTotals

/-- All drops of a host. -/
def totalDrops (totals : DroppedTotals) : Int :=
  totals.internalDrops + totals.crossNodeDrops

/-- Add up the reports of one host. -/
def ofReports (host : String) (reports : List DroppedReport) : DroppedTotals where
  host
  messages := reports.length
  internalDrops := reports.foldl (fun sum report => sum + report.internalDrops) 0
  crossNodeDrops := reports.foldl (fun sum report => sum + report.crossNodeDrops) 0
  hoursWithDrops := ((reports.map (·.date.hourStart)).eraseDups).length

end DroppedTotals

/-- The reports of each host, hosts in the order of their first reports. -/
def reportsByHost (reports : List DroppedReport) : Tally String (List DroppedReport) :=
  .ofItems (·.host) [] (fun ofHost report => ofHost ++ [report]) reports

/-- The totals of all hosts, most drops first; hosts with equally many drops stay in the order of
their first reports. -/
def droppedTotals (reports : List DroppedReport) : List DroppedTotals :=
  ((reportsByHost reports).map fun (host, ofHost) => .ofReports host ofHost).mergeSort
    fun first second => second.totalDrops ≤ first.totalDrops

end ClusterLog
