import ClusterLog.Layout.Token

/-!
# Line grammars

The grammar of a layout recognises the records written with it and says where their fields are.
Every layout has a grammar.  The stock layout has one of its own, in which a level is followed by
the thread name with or without space between.
-/

namespace ClusterLog.Layout

/-- How the records of a layout are recognised: a pattern, its written form, and the ordinals under
which it keeps the fields. -/
structure Grammar where
  pattern : Pattern
  source : List Char
  positions : List (Field × Nat)
deriving DecidableEq

namespace Grammar

/-- The ordinal of a field. -/
def position? (grammar : Grammar) (field : Field) : Option Nat :=
  grammar.positions.lookup field

/-- The number of texts that a match keeps. -/
def groups (grammar : Grammar) : Nat :=
  grammar.positions.length

/-- The grammar of layout pieces. -/
def ofPieces (pieces : List Piece) : Grammar where
  pattern := .sequence (pieces.flatMap (·.patterns))
  source := pieces.flatMap (·.source)
  positions := pieces.filterMap (·.position?)

end Grammar

/-- The pieces of tokens.  `seen` are the fields that have a place already; the first place of a
field gets the next ordinal. -/
def piecesFrom : List Field → List Token → List Piece
  | _, [] => []
  | seen, .field field :: tokens =>
    if seen.contains field then
      .again field :: piecesFrom seen tokens
    else
      .first field (seen.length + 1) :: piecesFrom (field :: seen) tokens
  | seen, .thread :: tokens => .thread :: piecesFrom seen tokens
  | seen, .nothing :: tokens => piecesFrom seen tokens
  | seen, .other :: tokens => .other :: piecesFrom seen tokens
  | seen, .space :: tokens => .space :: piecesFrom seen tokens
  | seen, .literal c :: tokens => .literal c :: piecesFrom seen tokens

/-- The layout that nodes use unless they are configured otherwise. -/
def stock : String := "%-5level [%thread] %date\x7bISO8601\x7d %F:%L - %msg%n"

/-- The grammar of the stock layout. -/
def stockGrammar : Grammar where
  pattern := .sequence ([
    .textStart, .many .blank, .capture 1 (.sequence [Field.level.body]), .many .blank] ++
    Piece.thread.patterns ++ [.one .blank] ++
    (Piece.first .timestamp 2).patterns ++ (Piece.first .message 3).patterns)
  source := "^\\s*(\\w+)\\s*\\[.*?]\\s([^,]*),\\d*(.*)".toList
  positions := [(.level, 1), (.timestamp, 2), (.message, 3)]

/-- The grammar of a layout description. -/
def compile (layout : String) : Grammar :=
  if layout == stock then stockGrammar
  else .ofPieces (piecesFrom [] (tokens layout.toList))

end ClusterLog.Layout
