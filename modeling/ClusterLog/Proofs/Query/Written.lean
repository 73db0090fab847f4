import ClusterLog.Query.Grammar
import ClusterLog.Query.Scope

/-!
# Written queries

The queries that the query language generates from words and quoted texts, how
they are written, and what they mean.  A query is written as pieces with single
blanks between them; in front of a text that begins a phrase there may be a sign
which says that the text is required.

The meaning is that of the query language: a column filter restricts what is
behind it, and a phrase without a filter is looked for in all columns.  Plain
phrases are restricted to one column by `WrittenQuery.restricted`, which writes
filters in front of them.
-/

namespace ClusterLog.Query

open Text

/-! ## Pieces -/

/-- The names of a filter between its braces, with single blanks between them
and perhaps blanks at the braces. -/
def namesText (isPadded : Bool) (first : Column) (others : List Column) :
    List Char :=
  let padding := if isPadded then [' '] else []
  let names := others.flatMap fun column => ' ' :: column.name.toList
  padding ++ first.name.toList ++ names ++ padding

/-- The text between quotes, with every quote in it written twice. -/
def doubled (content : List Char) : List Char :=
  content.flatMap fun c => if c = '"' then ['"', '"'] else [c]

/-- A text in quotes. -/
def inQuotes (content : List Char) : List Char :=
  '"' :: doubled content ++ ['"']

theorem doubled_quote (content : List Char) :
    doubled ('"' :: content) = '"' :: '"' :: doubled content :=
  rfl

theorem doubled_cons_of_ne {c : Char} (noQuote : c ≠ '"')
    (content : List Char) :
    doubled (c :: content) = c :: doubled content := by
  simp [doubled, noQuote]

theorem doubled_of_noQuote {content : List Char}
    (noQuote : ∀ c ∈ content, c ≠ '"') :
    doubled content = content := by
  induction content with
  | nil => rfl
  | cons c content ih =>
      have others : ∀ other ∈ content, other ≠ '"' :=
        fun other member => noQuote other (by simp [member])
      rw [doubled_cons_of_ne (noQuote c (by simp)), ih others]

theorem inQuotes_append (content rest : List Char) :
    inQuotes content ++ rest = '"' :: (doubled content ++ '"' :: rest) := by
  simp [inQuotes]

/-- A quoted text without the plus signs that look like required signs. -/
def dropSigns (begins : Bool) : List Char → List Char
  | [] => []
  | '+' :: rest =>
    if begins && !rest.head?.any fun next => isBlank next || next == '+' then
      dropSigns false rest
    else
      '+' :: dropSigns false rest
  | c :: rest => c :: dropSigns (isBlank c || c == '(') rest

/-- A piece of a written query. -/
inductive Piece where
  | mark (c : Char)
  | word (isRequired : Bool) (characters : List Char)
  | quoted (isRequired : Bool) (content : List Char)
  | braced (isPadded : Bool) (first : Column) (others : List Column)

namespace Piece

/-- The sign in front of a required text. -/
def sign (isRequired : Bool) : List Char :=
  if isRequired then ['+'] else []

/-- How a piece is written. -/
def written : Piece → List Char
  | mark c => [c]
  | word isRequired characters => sign isRequired ++ characters
  | quoted isRequired content => sign isRequired ++ inQuotes content
  | braced isPadded first others =>
    '\x7b' :: namesText isPadded first others ++ ['\x7d']

/-- The token that a piece is once the signs are dropped. -/
def token : Piece → Token
  | mark c => .mark c
  | word _ characters => .word characters
  | quoted _ content => .quoted (inQuotes (dropSigns false content))
  | braced isPadded first others =>
    .braced ('\x7b' :: namesText isPadded first others ++ ['\x7d'])

/-- The part of the scoped expression that a piece becomes. -/
def part : Piece → List Char
  | braced isPadded first others => (braced isPadded first others).written
  | piece => groupText piece.token

@[simp]
theorem token_mark (c : Char) : (mark c).token = .mark c := rfl

@[simp]
theorem token_word (isRequired : Bool) (characters : List Char) :
    (word isRequired characters).token = .word characters :=
  rfl

@[simp]
theorem part_mark (c : Char) : (mark c).part = [c] := rfl

/-- A word without punctuation stays as it is. -/
theorem part_word {characters : List Char} (isRequired : Bool)
    (plain : characters.all isWord = true) :
    (word isRequired characters).part = characters := by
  simp [part, groupText, Token.isMark, phraseText, plain]

/-- The pieces that are cut out of a query as they are. -/
def IsSound : Piece → Prop
  | mark c => c ∈ markChars
  | word _ characters =>
    characters ≠ [] ∧ ∀ c ∈ characters, isWordChar c ∧ c.toNat ≠ 0
  | quoted _ content => ∀ c ∈ content, c.toNat ≠ 0
  | braced _ _ _ => True

end Piece

/-! ## Phrases -/

/-- A word of a query. -/
structure Word where
  characters : List Char
  nonempty : characters ≠ []
  wordChars : ∀ c ∈ characters, isWordChar c
  noNull : ∀ c ∈ characters, c.toNat ≠ 0
  noOperator : characters ∉ operatorWords

/-- A word, or a text in quotes. -/
inductive WrittenText where
  | word (chosen : Word)
  | quoted (content : List Char) (noNull : ∀ c ∈ content, c.toNat ≠ 0)

namespace WrittenText

/-- The text that is searched for. -/
def content : WrittenText → List Char
  | word chosen => chosen.characters
  | quoted content _ => content

/-- The piece that a text is written as. -/
def piece (isRequired : Bool) : WrittenText → Piece
  | word chosen => .word isRequired chosen.characters
  | quoted content _ => .quoted isRequired content

end WrittenText

/-- A text of a phrase, with or without a star behind it. -/
structure WrittenTerm where
  text : WrittenText
  hasStar : Bool

namespace WrittenTerm

/-- The pieces of a text with its star. -/
def pieces (isRequired : Bool) (term : WrittenTerm) : List Piece :=
  term.text.piece isRequired :: if term.hasStar then [.mark '*'] else []

/-- The phrase with one more text. -/
def extend (phrase : Phrase) (term : WrittenTerm) : Phrase :=
  phrase.extend term.text.content term.hasStar

end WrittenTerm

/-- Texts that are joined by plus signs. -/
structure WrittenPhrase where
  isRequired : Bool
  first : WrittenTerm
  others : List WrittenTerm

namespace WrittenPhrase

/-- The pieces of the texts that join a phrase. -/
def joined (others : List WrittenTerm) : List Piece :=
  others.flatMap fun term => .mark '+' :: term.pieces false

/-- The pieces of a phrase. -/
def pieces (phrase : WrittenPhrase) : List Piece :=
  phrase.first.pieces phrase.isRequired ++ joined phrase.others

/-- The terms that a phrase looks for. -/
def meaning (phrase : WrittenPhrase) : Phrase :=
  phrase.others.foldl WrittenTerm.extend (phrase.first.extend {})

end WrittenPhrase

/-! ## Groups -/

/-- The digits of a distance. -/
structure Distance where
  digits : List Char
  nonempty : digits ≠ []
  areDigits : ∀ c ∈ digits, isAsciiDigit c

/-- A phrase, possibly at the beginning of its column, or phrases near each
other. -/
inductive WrittenGroup where
  | phrase (isFirst : Bool) (only : WrittenPhrase)
  | near (first : WrittenPhrase) (others : List WrittenPhrase)
    (distance : Option Distance)

namespace WrittenGroup

/-- The pieces of a distance behind near phrases. -/
def distancePieces : Option Distance → List Piece
  | some distance => [.mark ',', .word false distance.digits]
  | none => []

/-- The pieces of a group. -/
def pieces : WrittenGroup → List Piece
  | phrase isFirst only =>
    (if isFirst then [.mark '^'] else []) ++ only.pieces
  | near first others distance =>
    .word false "NEAR".toList :: .mark '(' ::
      (first.pieces ++ others.flatMap (·.pieces) ++
        distancePieces distance ++ [.mark ')'])

/-- The number that a distance stands for; without one it is ten. -/
def distanceValue : Option Distance → Int
  | some distance => (distanceOf? distance.digits).getD 10
  | none => 10

/-- What a group looks for in the columns of a filter. -/
def meaning (filter : Option (List Column)) : WrittenGroup → Group
  | phrase isFirst only =>
    { filter, phrases := [{ only.meaning with isFirst }] }
  | near first others distance =>
    { filter
      phrases := first.meaning :: others.map (·.meaning)
      distance := distanceValue distance }

end WrittenGroup

/-! ## Filters -/

/-- A column filter: one name, or names in braces, with or without blanks at
the braces. -/
inductive WrittenFilter where
  | one (column : Column)
  | several (isPadded : Bool) (first : Column) (others : List Column)

namespace WrittenFilter

/-- The pieces of a filter with its colon. -/
def pieces : WrittenFilter → List Piece
  | one column => [.word false column.name.toList, .mark ':']
  | several isPadded first others =>
    [.braced isPadded first others, .mark ':']

/-- The columns that a filter allows. -/
def columns : WrittenFilter → List Column
  | one column => [column]
  | several _ first others => first :: others

/-- The pieces of a filter, if there is one. -/
def optionalPieces : Option WrittenFilter → List Piece
  | some filter => filter.pieces
  | none => []

end WrittenFilter

/-- A group behind its filter, if it has one. -/
structure WrittenItem where
  filter : Option WrittenFilter
  group : WrittenGroup

namespace WrittenItem

/-- The pieces of a group with its filter. -/
def pieces (item : WrittenItem) : List Piece :=
  WrittenFilter.optionalPieces item.filter ++ item.group.pieces

/-- What a group with its filter looks for. -/
def meaning (item : WrittenItem) : Group :=
  item.group.meaning (item.filter.map (·.columns))

/-- A group that no filter covers is restricted to one column. -/
def restricted (column : Column) (isCovered : Bool) (item : WrittenItem) :
    WrittenItem :=
  if isCovered || item.filter.isSome then item
  else { item with filter := some (.one column) }

end WrittenItem

/-! ## Queries -/

/--
The queries whose operators outside of parentheses are at least so strong.  `OR`
is weakest and `NOT` strongest, and operators of one strength group to the left;
only groups stand next to each other without an operator.
-/
inductive WrittenQuery : (strength : Nat) → Type where
  | items {strength : Nat} (first : WrittenItem) (others : List WrittenItem) :
    WrittenQuery strength
  | parenthesised {strength : Nat} (filter : Option WrittenFilter)
    (body : WrittenQuery 0) : WrittenQuery strength
  | combined {strength : Nat} (operator : Operator)
    (strong : strength ≤ operator.strength)
    (left : WrittenQuery operator.strength)
    (right : WrittenQuery (operator.strength + 1)) : WrittenQuery strength

namespace WrittenQuery

/-- The pieces of a query. -/
def pieces {strength : Nat} : WrittenQuery strength → List Piece
  | items first others => first.pieces ++ others.flatMap (·.pieces)
  | parenthesised filter body =>
    WrittenFilter.optionalPieces filter ++
      .mark '(' :: (body.pieces ++ [.mark ')'])
  | combined operator _ left right =>
    left.pieces ++ .word false operator.word :: right.pieces

/-- How a query is written. -/
def text {strength : Nat} (query : WrittenQuery strength) : List Char :=
  [' '].intercalate (query.pieces.map (·.written))

/-- The expression that a query is. -/
def meaning {strength : Nat} : WrittenQuery strength → Expression
  | items first others =>
    .groups (first.meaning :: others.map (·.meaning))
  | parenthesised filter body =>
    restrict (filter.map (·.columns)) body.meaning
  | combined operator _ left right =>
    .combined operator left.meaning right.meaning

/-- The query in which everything that no filter covers is restricted to one
column. -/
def restricted {strength : Nat} (column : Column) (isCovered : Bool) :
    WrittenQuery strength → WrittenQuery strength
  | items first others =>
    items (first.restricted column isCovered)
      (others.map (·.restricted column isCovered))
  | parenthesised filter body =>
    parenthesised filter (body.restricted column (isCovered || filter.isSome))
  | combined operator strong left right =>
    combined operator strong (left.restricted column isCovered)
      (right.restricted column isCovered)

end WrittenQuery

end ClusterLog.Query
