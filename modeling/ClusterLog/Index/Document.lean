import ClusterLog.Entry.Basic
import ClusterLog.Term.Basic

/-!
# Documents

What the index stores of an entry, and the columns in which it is searched.
-/

namespace ClusterLog

/-- A searchable column. -/
inductive Column where
  | host
  | level
  | message
deriving DecidableEq

namespace Column

/-- All columns. -/
def all : List Column := [.host, .level, .message]

/-- The name of a column. -/
def name : Column → String
  | host => "host"
  | level => "level"
  | message => "message"

/-- The column with a name, in any case. -/
def ofName? (text : List Char) : Option Column :=
  all.find? fun column => column.name.toList == text.map Char.toLower

end Column

/-- A stored entry. -/
structure Document where
  host : String
  level : String
  message : String
  timestamp : String
deriving DecidableEq

namespace Document

/-- The text of a column. -/
def text (document : Document) : Column → String
  | .host => document.host
  | .level => document.level
  | .message => document.message

/-- The terms of a column. -/
def terms (document : Document) (column : Column) : List Term :=
  Term.terms (document.text column).toList

/-- The entry that a document stores. -/
def entry (document : Document) : Entry where
  level := document.level
  message := some document.message
  timestamp := document.timestamp
  host := some document.host

end Document

end ClusterLog
