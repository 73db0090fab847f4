import ClusterLog.Layout.Grammar
import ClusterLog.Severity
import ClusterLog.Text.Find

/-!
# Appenders

The configured destinations of a node's log records, and the one whose files are the best evidence:
among the rolling files that still show warnings, the most restrictive one, since with the same
rotation a less verbose file goes back further.
-/

namespace ClusterLog

open Text

/-- A configured destination of log records. -/
structure Appender where
  name : String
  className : String
  files : List String := []
  /-- The least severity that it writes. -/
  threshold : Severity := .info
  layout : String := ""
deriving DecidableEq

namespace Appender

/-- The class of appenders that write rolling files. -/
def rollingFileClass : String := "ch.qos.logback.core.rolling.RollingFileAppender"

/-- The file of the system log. -/
def systemLogFile : String := "$\x7bcassandra.logdir\x7d/system.log"

/-- The appender of the system log, under a given name. -/
def systemLog (name : String) : Appender where
  name
  className := rollingFileClass
  files := [systemLogFile]
  threshold := .info
  layout := Layout.stock

/-- The appender that stands in where none qualifies. -/
def fallback : Appender := systemLog "STDOUT"

/-- The appender of a node without usable configuration. -/
def unconfigured : Appender := systemLog "SYSTEMLOG"

/-- The highest threshold that still shows warnings. -/
def highestUsefulThreshold : Severity := .warn

/-- Whether an appender writes rolling files that show warnings. -/
def qualifies (appender : Appender) : Bool :=
  appender.className == rollingFileClass && appender.threshold ≤ highestUsefulThreshold &&
    !appender.files.isEmpty

/-- The first of the appenders with the highest threshold, `best` being in front of them. -/
def mostRestrictive (best : Appender) (others : List Appender) : Appender :=
  others.foldl (fun best appender => if best.threshold < appender.threshold then appender else best)
    best

/-- The appender whose files are the best evidence. -/
def select (appenders : List Appender) : Appender :=
  match appenders.filter qualifies with
  | [] => fallback
  | first :: others => mostRestrictive first others

/-! ## File names -/

/-- Names of log files: a literal beginning and any rest of a line. -/
structure NamePattern where
  pattern : Pattern
  source : List Char

/-- The class of the characters of one line. -/
def lineChar : CharClass := .outside (.single '\n')

/-- The names that continue a given one. -/
def NamePattern.continuing (name : List Char) : NamePattern where
  pattern := .seq (.literal name) (.many lineChar)
  source := Pattern.escape name ++ ".*".toList

/-- The last component of a path. -/
def lastComponent (path : List Char) : List Char :=
  ((splitAt '/' path).getLast?).getD []

/-- The names of the rotated files of an appender, after the last component of its first file. -/
def namePattern? (appender : Appender) : Option NamePattern :=
  appender.files.head?.map fun file => .continuing (lastComponent file.toList)

/-- The names of files that are taken for log files where an appender's files are missing. -/
def wellKnownNames : List String := ["application.log", "system.log", "stdout", "cassandra_0.log"]

/-- The names that continue one of the well-known ones. -/
def wellKnown : NamePattern :=
  let patterns := wellKnownNames.map fun name => NamePattern.continuing name.toList
  match patterns with
  | [] => ⟨.empty, []⟩
  | first :: others => others.foldl (fun all other =>
      ⟨.either all.pattern other.pattern, all.source ++ '|' :: other.source⟩) first

end Appender

end ClusterLog
