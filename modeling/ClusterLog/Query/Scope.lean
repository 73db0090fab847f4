import ClusterLog.Query.Token

/-!
# The scope of plain terms

A written query becomes an expression of the query language in which every phrase and every group of
near phrases that no column filter covers is restricted to one column.  Filters, operators and
parentheses stay as they are written, words with punctuation become quoted phrases, and malformed
queries stay malformed.
-/

namespace ClusterLog.Query

open Text

/-- The column that plain terms are restricted to. -/
def defaultColumn : String := "message"

/-- How a phrase is written in an expression: a quoted text and a plain word as they are, anything
else in quotes. -/
def phraseText : Token → List Char
  | .quoted written => written
  | .word written => if written.all isWord then written else '"' :: written ++ ['"']
  | token => '"' :: token.written ++ ['"']

/-- How a token inside a group of near phrases is written. -/
def groupText (token : Token) : List Char :=
  if token.isMark then token.written else phraseText token

/-- The words that combine expressions. -/
def operatorWords : List (List Char) :=
  ["AND".toList, "OR".toList, "NOT".toList]

/-- Whether a token combines expressions. -/
def Token.isOperator : Token → Bool
  | word written => operatorWords.contains written
  | _ => false

/-- What is known in front of a token. -/
structure ScopeState where
  /-- The open parentheses, the innermost first, and whether a filter covers each of them. -/
  groups : List Bool := []
  /-- A filter waits for what it applies to. -/
  filtered : Bool := false
  /-- The next phrase goes on with the one before it, or with the mark that puts it at the
  beginning of a column. -/
  joining : Bool := false
  /-- The token before is a phrase. -/
  afterPhrase : Bool := false
  /-- A group of near phrases is open. -/
  inGroup : Bool := false
deriving DecidableEq

/-- Whether a filter covers what comes next. -/
def ScopeState.isCovered (state : ScopeState) : Bool :=
  state.filtered || state.groups.any id

/-- The filter in front of a part, unless something else restricts it. -/
def filterText (column : List Char) (restricted : Bool) : List (List Char) :=
  if restricted then [] else [column, [':']]

/-- What a mark becomes. -/
def scopeMark (column : List Char) (state : ScopeState) (c : Char) :
    List (List Char) × ScopeState :=
  match c with
  | '(' => ([[c]], { state with
      groups := state.isCovered :: state.groups, filtered := false, afterPhrase := false })
  | ')' => ([[c]], { state with groups := state.groups.tail, afterPhrase := false })
  | '+' =>
    if state.afterPhrase then ([[c]], { state with joining := true, afterPhrase := false })
    else ([], state)
  | '^' => (filterText column (state.isCovered || state.joining) ++ [[c]],
      { state with filtered := false, joining := true, afterPhrase := false })
  | _ => ([[c]], state)

/-- What a phrase becomes. -/
def scopePhrase (column : List Char) (state : ScopeState) (token : Token) :
    List (List Char) × ScopeState :=
  (filterText column (state.isCovered || state.joining) ++ [phraseText token],
    { state with filtered := false, joining := false, afterPhrase := true })

/-- What a token becomes that is neither a mark nor inside a group of near phrases, in front of the
token `next`.  In front of a colon it names columns, and in front of a parenthesis the word `NEAR`
begins a group. -/
def scopeWord (column : List Char) (state : ScopeState) (token : Token) (next : Option Token) :
    List (List Char) × ScopeState :=
  if next = some (.mark ':') then
    ([token.written], { state with filtered := true, afterPhrase := false })
  else if token.isOperator then
    ([token.written], { state with afterPhrase := false })
  else if token = .word "NEAR".toList ∧ next = some (.mark '(') then
    (filterText column state.isCovered ++ [token.written],
      { state with filtered := false, afterPhrase := false, inGroup := true })
  else
    scopePhrase column state token

/-- What a token becomes in front of the token `next`, and what is known behind it. -/
def scopeToken (column : List Char) (state : ScopeState) (token : Token) (next : Option Token) :
    List (List Char) × ScopeState :=
  if state.inGroup then
    ([groupText token], { state with inGroup := token != .mark ')' })
  else
    match token with
    | .mark c => scopeMark column state c
    | token => scopeWord column state token next

/-- The parts of the expression that tokens become. -/
def scopeParts (column : List Char) (state : ScopeState) : List Token → List (List Char)
  | [] => []
  | token :: rest =>
    let (parts, next) := scopeToken column state token rest.head?
    parts ++ scopeParts column next rest

/-- The expression of a written query, with plain terms restricted to a column. -/
def scopeChars (column text : List Char) : List Char :=
  [' '].intercalate (scopeParts column {} (tokens text))

/-- The expression of a written query, with plain terms restricted to a column. -/
def scope (text column : String) : String :=
  String.ofList (scopeChars column.toList text.toList)

end ClusterLog.Query
