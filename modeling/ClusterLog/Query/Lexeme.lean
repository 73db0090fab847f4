import ClusterLog.Query.Expression
import ClusterLog.Query.Fault

/-!
# Lexemes of expressions

An expression of the query language is cut into quoted texts, plain words, operators and marks.  It
ends at its first null character.  `lexemes` also returns why cutting stopped, if it did not reach
the end.
-/

namespace ClusterLog.Query

open Text

/-- A part of an expression. -/
inductive Lexeme where
  /-- A quoted text or a plain word, as it is written. -/
  | text (written : List Char)
  | operator (combining : Operator)
  | mark (c : Char)
deriving DecidableEq

/-- How an operator is written. -/
def Operator.word : Operator → List Char
  | or => "OR".toList
  | and => "AND".toList
  | not => "NOT".toList

namespace Lexeme

/-- How a lexeme is written. -/
def written : Lexeme → List Char
  | text written => written
  | operator combining => combining.word
  | mark c => [c]

end Lexeme

/-- The blanks between lexemes. -/
def isExpressionBlank (c : Char) : Bool :=
  c == ' ' || c == '\t' || c == '\n' || c == '\r'

/-- The marks of expressions. -/
def expressionMarks : List Char :=
  "()\x7b\x7d:,+*-^".toList

/-- The characters of plain words. -/
def isPlainChar (c : Char) : Bool :=
  128 ≤ c.toNat || isAsciiLetter c || isAsciiDigit c || c == '_' || c == '\x1a'

/-- The lexeme of a plain word: three words in capitals are operators. -/
def wordLexeme (word : List Char) : Lexeme :=
  match [Operator.or, .and, .not].find? fun operator => operator.word == word with
  | some operator => .operator operator
  | none => .text word

/-- What is being read when an expression is cut into lexemes, with the characters read so far, the
latest first. -/
inductive PartialLexeme where
  | nothing
  | word (characters : List Char)
  | quoted (characters : List Char)

/-- What begins with a character outside quotes: complete lexemes and a begun one, or a fault. -/
def PartialLexeme.begin (c : Char) : Except Fault (List Lexeme × PartialLexeme) :=
  if isExpressionBlank c then .ok ([], nothing)
  else if c == '"' then .ok ([], quoted ['"'])
  else if expressionMarks.contains c then .ok ([.mark c], nothing)
  else if isPlainChar c then .ok ([], word [c])
  else .error (.unexpected [c])

/-- Cut a text into lexemes, going on with a begun one. -/
def lexemesFrom : PartialLexeme → List Char → List Lexeme × Option Fault
  | .nothing, [] => ([], none)
  | .word characters, [] => ([wordLexeme characters.reverse], none)
  | .quoted _, [] => ([], some .unterminatedText)
  | .quoted characters, '"' :: '"' :: rest =>
    lexemesFrom (.quoted ('"' :: '"' :: characters)) rest
  | .quoted characters, '"' :: rest =>
    let (others, fault) := lexemesFrom .nothing rest
    (.text ('"' :: characters).reverse :: others, fault)
  | .quoted characters, c :: rest => lexemesFrom (.quoted (c :: characters)) rest
  | .word characters, c :: rest =>
    if isPlainChar c then
      lexemesFrom (.word (c :: characters)) rest
    else
      match PartialLexeme.begin c with
      | .error fault => ([wordLexeme characters.reverse], some fault)
      | .ok (complete, begun) =>
        let (others, fault) := lexemesFrom begun rest
        (wordLexeme characters.reverse :: (complete ++ others), fault)
  | .nothing, c :: rest =>
    match PartialLexeme.begin c with
    | .error fault => ([], some fault)
    | .ok (complete, begun) =>
      let (others, fault) := lexemesFrom begun rest
      (complete ++ others, fault)

theorem lexemesFrom_blank (rest : List Char) :
    lexemesFrom .nothing (' ' :: rest) = lexemesFrom .nothing rest := by
  rw [lexemesFrom]
  rfl

/-- The lexemes of an expression, and why cutting stopped early. -/
def lexemes (expression : List Char) : List Lexeme × Option Fault :=
  lexemesFrom .nothing (expression.takeWhile fun c => c.toNat != 0)

/-- The text between quotes, in which a quote is written twice. -/
def unquoteBody : List Char → List Char
  | '"' :: '"' :: rest => '"' :: unquoteBody rest
  | '"' :: _ => []
  | c :: rest => c :: unquoteBody rest
  | [] => []

/-- The text that a written text stands for. -/
def unquote : List Char → List Char
  | '"' :: body => unquoteBody body
  | written => written

end ClusterLog.Query
