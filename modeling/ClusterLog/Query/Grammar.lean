import ClusterLog.Query.Lexeme
import ClusterLog.Text.Integer

/-!
# The grammar of expressions

    expression := expression OR expression | expression AND expression | expression NOT expression
                | columns ":" "(" expression ")" | "(" expression ")" | group group …
    group      := [columns ":"] near
    near       := phrase | "^" phrase | "NEAR" "(" phrase phrase … ["," number] ")"
    phrase     := text ["*"] "+" text ["*"] …
    columns    := ["-"] (name | "{" name name … "}")

`OR` binds weakest and `NOT` strongest, and operators of one strength group to the left.

A reader keeps the parts of an unfinished expression; `depth` is their number, and a text that needs
too many of them is rejected.  Of several faults the one that a reader from left to right meets
first counts.  It knows one lexeme ahead, so a fault in the next lexeme comes before a fault in the
part that was just completed.

Every rule goes down with `steps`, which starts above the number of lexemes.
-/

namespace ClusterLog.Query

open Text

/-- The limits on the size of expressions. -/
structure Limits where
  /-- How many parts of an unfinished expression are kept. -/
  depth : Nat := 99
  /-- How many operators may be nested. -/
  height : Nat := 256

/-- What reading an expression depends on. -/
structure Source where
  limits : Limits := {}
  /-- Why there are no more lexemes, if the text goes on. -/
  fault : Option Fault := none

namespace Source

/-- The fault of lexemes that the grammar does not allow here. -/
def unexpected (source : Source) : List Lexeme → Fault
  | [] => source.fault.getD (.unexpected [])
  | lexeme :: _ => .unexpected lexeme.written

/-- Look one lexeme ahead. -/
def lookAhead (source : Source) (rest : List Lexeme) : Except Fault Unit :=
  match source.fault with
  | some fault => if rest.isEmpty then .error fault else .ok ()
  | none => .ok ()

/-- Whether so many parts can be kept. -/
def keep (source : Source) (depth : Nat) : Except Fault Unit :=
  if depth ≤ source.limits.depth then .ok () else .error .tooDeep

end Source

/-- The lexemes that are still to be read. -/
abbrev Rest := List Lexeme

/-- The star behind a text, if there is one, on top of `depth` parts. -/
def readStar (source : Source) (depth : Nat) (rest : Rest) : Except Fault (Bool × Rest) := do
  source.lookAhead rest
  source.keep (depth + 1)
  match rest with
  | .mark '*' :: rest => return (true, rest)
  | rest => return (false, rest)

/-- The texts that join a phrase, which is the last of `depth + 1` parts. -/
def readJoined (source : Source) (depth : Nat) : Nat → Phrase → Rest → Except Fault (Phrase × Rest)
  | steps + 1, phrase, .mark '+' :: rest => do
    source.keep (depth + 2)
    match rest with
    | .text written :: rest => do
      source.keep (depth + 3)
      let (star, rest) ← readStar source (depth + 3) rest
      readJoined source depth steps (phrase.extend (unquote written) star) rest
    | rest => .error (source.unexpected rest)
  | _, phrase, rest => .ok (phrase, rest)

/-- A phrase on top of `depth` parts. -/
def readPhrase (source : Source) (steps depth : Nat) : Rest → Except Fault (Phrase × Rest)
  | .text written :: rest => do
    source.keep (depth + 1)
    let (star, rest) ← readStar source (depth + 1) rest
    readJoined source depth steps (Phrase.extend {} (unquote written) star) rest
  | rest => .error (source.unexpected rest)

/-- The other phrases of a group, the first being the last of `depth + 1` parts. -/
def readPhrases (source : Source) (depth : Nat) : Nat → Rest → Except Fault (List Phrase × Rest)
  | steps + 1, .text written :: rest => do
    let (phrase, rest) ← readPhrase source steps (depth + 1) (.text written :: rest)
    let (phrases, rest) ← readPhrases source depth steps rest
    return (phrase :: phrases, rest)
  | _, rest => .ok ([], rest)

/-- The number that a distance writes, as a signed number of 32 bits. -/
def distanceOf? (written : List Char) : Option Int :=
  if written.all isAsciiDigit then
    some (Int.bmod (digitsValue (written.filterMap digitValue?)) 4294967296)
  else
    none

/-- The distance of a group behind its phrases, as it is written, on top of `depth` parts. -/
def readDistance (source : Source) (depth : Nat) : Rest → Except Fault (Option (List Char) × Rest)
  | .mark ',' :: rest => do
    source.keep (depth + 1)
    match rest with
    | .text written :: rest => do
      source.keep (depth + 2)
      return (some written, rest)
    | rest => .error (source.unexpected rest)
  | rest => do
    source.lookAhead rest
    source.keep (depth + 1)
    return (none, rest)

/-- A group of near phrases behind its name and the opening parenthesis, on top of `depth` parts
before the name. -/
def readNear (source : Source) (steps depth : Nat) (name : List Char) (rest : Rest) :
    Except Fault (Group × Rest) := do
  let (first, rest) ← readPhrase source steps (depth + 2) rest
  let (others, rest) ← readPhrases source (depth + 2) steps rest
  let (written, rest) ← readDistance source (depth + 3) rest
  match rest with
  | .mark ')' :: rest => do
    source.keep (depth + 5)
    source.lookAhead rest
    if name ≠ "NEAR".toList then
      throw (.unexpected name)
    match written with
    | none => return ({ phrases := first :: others }, rest)
    | some written =>
      match distanceOf? written with
      | some distance => return ({ phrases := first :: others, distance }, rest)
      | none => throw (.distanceNotInteger written)
  | rest => .error (source.unexpected rest)

/-- The column that a text names. -/
def columnOf (written : List Char) : Except Fault Column :=
  match Column.ofName? (unquote written) with
  | some column => .ok column
  | none => .error (.unknownColumn (unquote written))

/-- The other names between braces, the first being the last of `depth` parts. -/
def readNames (source : Source) (depth : Nat) : Rest → Except Fault (List Column × Rest)
  | .text written :: rest => do
    source.keep (depth + 1)
    source.lookAhead rest
    let column ← columnOf written
    let (columns, rest) ← readNames source depth rest
    return (column :: columns, rest)
  | .mark '\x7d' :: rest => do
    source.keep (depth + 1)
    return ([], rest)
  | rest => .error (source.unexpected rest)

/-- Columns that are named one by one or between braces, on top of `depth` parts. -/
def readColumns (source : Source) (depth : Nat) : Rest → Except Fault (List Column × Rest)
  | .text written :: rest => do
    source.keep (depth + 1)
    source.lookAhead rest
    return ([← columnOf written], rest)
  | .mark '\x7b' :: rest => do
    source.keep (depth + 1)
    match rest with
    | .text written :: rest => do
      source.keep (depth + 2)
      source.lookAhead rest
      let column ← columnOf written
      let (columns, rest) ← readNames source (depth + 2) rest
      return (column :: columns, rest)
    | rest => .error (source.unexpected rest)
  | rest => .error (source.unexpected rest)

/-- The columns that are not among given ones. -/
def otherColumns (columns : List Column) : List Column :=
  Column.all.filter fun column => !columns.contains column

/-- The colon behind columns, on top of `depth` parts and the columns. -/
def readColon (source : Source) (depth : Nat) (columns : List Column) :
    Rest → Except Fault (Option (List Column) × Rest)
  | .mark ':' :: rest => do
    source.keep (depth + 2)
    return (some columns, rest)
  | rest => .error (source.unexpected rest)

/-- The column filter at the beginning of a group, if there is one, on top of `depth` parts.  A
text is one only in front of a colon. -/
def readFilter (source : Source) (depth : Nat) : Rest → Except Fault (Option (List Column) × Rest)
  | .text written :: .mark ':' :: rest => do
    let (columns, rest) ← readColumns source depth (.text written :: .mark ':' :: rest)
    readColon source depth columns rest
  | .mark '\x7b' :: rest => do
    let (columns, rest) ← readColumns source depth (.mark '\x7b' :: rest)
    readColon source depth columns rest
  | .mark '-' :: rest => do
    source.keep (depth + 1)
    let (columns, rest) ← readColumns source (depth + 1) rest
    readColon source depth (otherColumns columns) rest
  | rest => .ok (none, rest)

/-- The number of parts that a filter keeps. -/
def filterParts : Option (List Column) → Nat
  | some _ => 2
  | none => 0

/-- A group behind its column filter, on top of `depth` parts. -/
def readGroup (source : Source) (steps depth : Nat) : Rest → Except Fault (Group × Rest)
  | .mark '^' :: rest => do
    source.keep (depth + 1)
    let (phrase, rest) ← readPhrase source steps (depth + 1) rest
    return ({ phrases := [{ phrase with isFirst := true }] }, rest)
  | .text name :: .mark '(' :: rest => do
    source.keep (depth + 2)
    readNear source steps depth name rest
  | rest => do
    let (phrase, rest) ← readPhrase source steps depth rest
    return ({ phrases := [phrase] }, rest)

/-- Whether a group can begin with a lexeme. -/
def beginsGroup : Lexeme → Bool
  | .text _ => true
  | .mark c => c == '-' || c == '\x7b' || c == '^'
  | .operator _ => false

/-- The other groups of a list, those before them being the last of `depth + 1` parts. -/
def readGroups (source : Source) (depth : Nat) : Nat → Rest → Except Fault (List Group × Rest)
  | steps + 1, lexeme :: rest =>
    if beginsGroup lexeme then do
      let (filter, rest) ← readFilter source (depth + 1) (lexeme :: rest)
      let (group, rest) ← readGroup source steps (depth + 1 + filterParts filter) rest
      let (groups, rest) ← readGroups source depth steps rest
      return ({ group with filter } :: groups, rest)
    else
      .ok ([], lexeme :: rest)
  | _, rest => .ok ([], rest)

/-- The expression in which an operator combines two others. -/
def combine (source : Source) (operator : Operator) (left right : Expression) :
    Except Fault Expression :=
  let whole := Expression.combined operator left right
  if whole.height ≤ source.limits.height then .ok whole
  else .error (.tooHigh source.limits.height)

/-- Restrict an expression to the columns of a filter. -/
def restrict : Option (List Column) → Expression → Expression
  | some columns, body => .within columns body
  | none, body => body

/-- The closing parenthesis behind an expression, on top of `depth` parts. -/
def readClosing (source : Source) (depth : Nat) : Rest → Except Fault (Rest)
  | .mark ')' :: rest => do
    source.keep (depth + 1)
    return rest
  | rest => .error (source.unexpected rest)

mutual

/-- An expression whose operators are at least so strong, on top of `depth` parts. -/
def readExpression (source : Source) :
    Nat → (strength depth : Nat) → Rest → Except Fault (Expression × Rest)
  | 0, _, _, rest => .error (source.unexpected rest)
  | steps + 1, strength, depth, rest => do
    let (left, rest) ← readOperand source steps depth rest
    readOperators source steps strength depth left rest

/-- The operators and operands behind a left operand, which is the last of `depth + 1` parts. -/
def readOperators (source : Source) :
    Nat → (strength depth : Nat) → Expression → Rest → Except Fault (Expression × Rest)
  | steps + 1, strength, depth, left, .operator operator :: rest =>
    if operator.strength < strength then
      .ok (left, .operator operator :: rest)
    else do
      source.keep (depth + 2)
      let (right, rest) ← readExpression source steps (operator.strength + 1) (depth + 2) rest
      source.lookAhead rest
      let whole ← combine source operator left right
      readOperators source steps strength depth whole rest
  | _, _, _, left, rest => .ok (left, rest)

/-- An operand: an expression in parentheses, with or without a column filter, or groups. -/
def readOperand (source : Source) : Nat → (depth : Nat) → Rest → Except Fault (Expression × Rest)
  | 0, _, rest => .error (source.unexpected rest)
  | steps + 1, depth, rest => do
    let (filter, rest) ← readFilter source depth rest
    let inner := depth + filterParts filter
    match rest with
    | .mark '(' :: rest => do
      source.keep (inner + 1)
      let (body, rest) ← readExpression source steps 0 (inner + 1) rest
      let rest ← readClosing source (inner + 2) rest
      return (restrict filter body, rest)
    | rest => do
      let (first, rest) ← readGroup source steps inner rest
      let (others, rest) ← readGroups source depth steps rest
      return (.groups ({ first with filter } :: others), rest)

end

/-- Read a whole expression. -/
def readAll (limits : Limits) (text : List Char) : Except Fault Expression := do
  let (parts, fault) := lexemes text
  let source : Source := { limits, fault }
  let (expression, rest) ← readExpression source (3 * parts.length + 3) 0 0 parts
  if rest.isEmpty && fault.isNone then return expression
  else throw (source.unexpected rest)

end ClusterLog.Query
