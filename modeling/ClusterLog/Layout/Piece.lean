import ClusterLog.Pattern.Basic
import ClusterLog.Pattern.Escape

/-!
# Layout pieces

What a layout description is made of once it is read: the three fields of a record, the thread name
in brackets, other conversions, spaces and literal characters.  Each piece has a pattern and the
written form of that pattern.
-/

namespace ClusterLog.Layout

open Text

/-- The parts of a log record that a layout places. -/
inductive Field where
  | level
  | timestamp
  | message
deriving DecidableEq

/-- All fields, in the order in which they are listed. -/
def Field.all : List Field := [.level, .timestamp, .message]

/-- The name of a field. -/
def Field.name : Field → String
  | .level => "level"
  | .timestamp => "timestamp"
  | .message => "message"

/-- The text of a field: a word, the text before a comma, or any text. -/
def Field.body : Field → Pattern
  | .level => .atLeastOne .word
  | .timestamp => .many (.outside (.single ','))
  | .message => .many .any

/-- The written form of the text of a field. -/
def Field.bodySource : Field → String
  | .level => "\\w+"
  | .timestamp => "[^,]*"
  | .message => ".*"

/-- What follows the text of a field and belongs to it: milliseconds follow a date. -/
def Field.tail : Field → List Pattern
  | .level => []
  | .timestamp => [.char ',', .many .digit]
  | .message => []

/-- The written form of what follows the text of a field. -/
def Field.tailSource : Field → String
  | .level => ""
  | .timestamp => ",\\d*"
  | .message => ""

/-- A piece of a layout. -/
inductive Piece where
  /-- The first place of a field; its text is kept under an ordinal. -/
  | first (field : Field) (ordinal : Nat)
  /-- A further place of a field, whose text is not kept. -/
  | again (field : Field)
  /-- The thread name in brackets. -/
  | thread
  /-- A conversion without meaning here: any text, as little as possible. -/
  | other
  /-- A space: blanks, possibly none. -/
  | space
  /-- A character that stands for itself. -/
  | literal (c : Char)
deriving DecidableEq

namespace Piece

/-- The patterns of a piece, one after the other. -/
def patterns : Piece → List Pattern
  | first field ordinal => .capture ordinal (.sequence [field.body]) :: field.tail
  | again field => .sequence [field.body] :: field.tail
  | thread => [.char '[', .few .any, .char ']']
  | other => [.few .any]
  | space => [.many .blank]
  | literal c => [.char c]

/-- The written form of the pattern of a piece. -/
def source : Piece → List Char
  | first field _ => ("(" ++ field.bodySource ++ ")" ++ field.tailSource).toList
  | again field => ("(?:" ++ field.bodySource ++ ")" ++ field.tailSource).toList
  | thread => "\\[.*?]".toList
  | other => ".*?".toList
  | space => "\\s*".toList
  | literal c => Pattern.escapeChar c

/-- The field whose text a piece keeps, with its ordinal. -/
def position? : Piece → Option (Field × Nat)
  | first field ordinal => some (field, ordinal)
  | _ => none

end Piece

end ClusterLog.Layout
