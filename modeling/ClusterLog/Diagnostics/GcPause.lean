import ClusterLog.Diagnostics.Reading
import ClusterLog.Diagnostics.Tally
import ClusterLog.Text.Order

/-!
# Garbage collection pauses

The pauses that log entries report, and their number per day.  A pause of more than 100 milliseconds
is medium, one of more than a second long.
-/

namespace ClusterLog

open Text Calendar Diagnostics

/-- The collectors that pauses are attributed to. -/
inductive Collector where
  | parNew
  | concurrentMarkSweep
  | g1
  | unknown
deriving DecidableEq

/-- The name of a collector. -/
def Collector.name : Collector → String
  | .parNew => "ParNew"
  | .concurrentMarkSweep => "CMS"
  | .g1 => "G1GC"
  | .unknown => "unknown"

/-- The collector that a pause message names. -/
def Collector.ofWord (word : List Char) : Collector :=
  if word == "ParNew".toList then .parNew
  else if word == "ConcurrentMarkSweep".toList then .concurrentMarkSweep
  else .unknown

/-- A pause. -/
structure GcPause where
  collector : Collector
  milliseconds : Int
  date : DateTime
  host : String
deriving DecidableEq

namespace GcPause

/-- The longest pause that is not medium, in milliseconds. -/
def mediumBound : Int := 100

/-- The longest pause that is not long, in milliseconds. -/
def longBound : Int := 1000

/-- Whether a pause is long. -/
def isLong (pause : GcPause) : Bool :=
  longBound < pause.milliseconds

/-- Whether a pause takes longer than the short ones. -/
def exceedsMedium (pause : GcPause) : Bool :=
  mediumBound < pause.milliseconds

/-- The word in front of the first ` GC in …ms` of a message, and the digits in it. -/
def currentForm? (text : List Char) : Option (List Char × List Char) :=
  firstReading? (fun before rest => do
    let rest ← dropLiteral? " GC in ".toList rest
    let (digits, rest) ← readRun? isAsciiDigit rest
    let _ ← dropLiteral? "ms".toList rest
    return ((before.takeWhile isWord).reverse, digits)) text

/-- Older messages: what marks one, the text in front of the milliseconds, and the collector.  The
first mark that a message has decides. -/
def olderForms : List (String × String × Collector) := [
  ("G1", "", .g1),
  ("GC for ConcurrentMarkSweep", "GC for ConcurrentMarkSweep: ", .concurrentMarkSweep),
  (" GC for ParNew", "GC for ParNew: ", .parNew),
  ("PS MarkSweep", "GC for PS MarkSweep: ", .parNew)]

/-- The collector and the digits of a pause message. -/
def parts? (text : List Char) : Option (Collector × List Char) :=
  match currentForm? text with
  | some (word, digits) => some (.ofWord word, digits)
  | none => do
    let (_, before, collector) ← olderForms.find? fun form => occursIn form.1.toList text
    let digits ← digitsBetween? before.toList " ms".toList isDigit text
    return (collector, digits)

/-- The pause that an entry reports, if it reports one. -/
def ofEntry (entry : Entry) : Except Failure (Option GcPause) :=
  match parts? entry.messageText.toList with
  | none => .ok none
  | some (collector, digits) => do
    let milliseconds ← number digits
    let date ← dateOf entry
    return some { collector, milliseconds, date, host := hostOf entry }

end GcPause

/-- How many pauses there were, and how many of them were medium and long. -/
structure GcCounts where
  pauses : Nat := 0
  mediumPauses : Nat := 0
  longPauses : Nat := 0
deriving DecidableEq

/-- Count one more pause. -/
def GcCounts.add (counts : GcCounts) (pause : GcPause) : GcCounts :=
  let counts := { counts with pauses := counts.pauses + 1 }
  if pause.isLong then { counts with longPauses := counts.longPauses + 1 }
  else if pause.exceedsMedium then { counts with mediumPauses := counts.mediumPauses + 1 }
  else counts

/-- The pauses of one day. -/
structure GcDay where
  day : String
  pauses : Nat
  mediumPauses : Nat
  longPauses : Nat
deriving DecidableEq

/-- The counts of a day. -/
def GcDay.ofCounts (day : String) (counts : GcCounts) : GcDay where
  day
  pauses := counts.pauses
  mediumPauses := counts.mediumPauses
  longPauses := counts.longPauses

/-- The counts of each day, days in the order of their first pauses. -/
def countsByDay (pauses : List GcPause) : Tally String GcCounts :=
  .ofItems (·.date.dayText) {} GcCounts.add pauses

/-- The days on which there were pauses, in the order of their texts. -/
def gcDays (pauses : List GcPause) : List GcDay :=
  ((countsByDay pauses).mergeSort fun first second =>
    precedes first.1.toList second.1.toList).map fun (day, counts) => .ofCounts day counts

end ClusterLog
