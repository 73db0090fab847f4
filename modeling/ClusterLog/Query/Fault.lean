import ClusterLog.Text.Find

/-!
# Faults of expressions

Why the query language rejects an expression.  Some of its refusals say that the expression is
malformed; the others are about limits and arguments, and count as failures of the index.
-/

namespace ClusterLog.Query

open Text

/-- Why an expression is rejected. -/
inductive Fault where
  /-- A part that the grammar does not allow where it stands. -/
  | unexpected (written : List Char)
  | unterminatedText
  | unknownColumn (name : List Char)
  /-- Too many open parts. -/
  | tooDeep
  /-- Too many nested operators. -/
  | tooHigh (limit : Nat)
  | distanceNotInteger (written : List Char)
  | unknownDirective (name : List Char)
deriving DecidableEq

namespace Fault

/-- The wording of a fault. -/
def message : Fault → String
  | unexpected written => "fts5: syntax error near \"" ++ String.ofList written ++ "\""
  | unterminatedText => "unterminated string"
  | unknownColumn name => "no such column: " ++ String.ofList name
  | tooDeep => "fts5: parser stack overflow"
  | tooHigh limit =>
    "fts5 expression tree is too large (maximum depth " ++
      String.ofList (Nat.toDigits 10 limit) ++ ")"
  | distanceNotInteger written => "expected integer, got \"" ++ String.ofList written ++ "\""
  | unknownDirective name => "unknown special query: " ++ String.ofList name

/-- Whether a wording, in any case, says that the expression is malformed. -/
def isAboutSyntax (message : String) : Bool :=
  let text := message.toList.map Char.toLower
  (dropLiteral? "fts5:".toList text).isSome || occursIn "no such column".toList text ||
    occursIn "unterminated string".toList text

end Fault

end ClusterLog.Query
