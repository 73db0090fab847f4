import ClusterLog.Calendar.Stamp
import ClusterLog.Text.Trim

/-!
# Log entries

One logical log record.  Its timestamp is either empty, when the record could not be parsed, or
`yyyyMMddHHmmss`.
-/

namespace ClusterLog

open Text Calendar

/-- One logical log record. -/
structure Entry where
  level : String
  message : Option String
  timestamp : String
  host : Option String := none
deriving DecidableEq

namespace Entry

/-- What a record becomes that cannot be parsed. -/
def invalid : Entry where
  level := ""
  message := some ""
  timestamp := ""

/-- Whether an entry has a timestamp. -/
def isValid (entry : Entry) : Bool :=
  !isBlankText entry.timestamp.toList

/-- The point in time of an entry, if its timestamp can be read. -/
def date? (entry : Entry) : Option DateTime :=
  ofStamp? entry.timestamp

/-- The entry with a host. -/
def withHost (entry : Entry) (host : String) : Entry :=
  { entry with host := some host }

/-- The message of an entry; a missing message is empty. -/
def messageText (entry : Entry) : String :=
  entry.message.getD ""

end Entry

end ClusterLog
