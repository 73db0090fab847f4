import ClusterLog.Query.Grammar

/-!
# Requests to the index

An expression that begins with a star is no query but a directive.  The known directives ask for
internal numbers of the index and find no document.
-/

namespace ClusterLog.Query

open Text

/-- What is asked of the index. -/
inductive Request where
  | directive
  | query (expression : Expression)

namespace Request

/-- Whether a document answers a request. -/
def finds : Request → Document → Bool
  | directive, _ => false
  | query expression, document => expression.holds document

/-- The names of the known directives. -/
def directives : List (List Char) :=
  ["reads".toList, "id".toList]

/-- Read a directive behind its star. -/
def ofDirective (text : List Char) : Except Fault Request :=
  let name := (text.dropWhile (· == ' ')).takeWhile (· != ' ')
  if directives.contains (name.map Char.toLower) then .ok directive
  else .error (.unknownDirective name)

/-- Read what an expression asks for. -/
def ofExpression (limits : Limits) (expression : List Char) : Except Fault Request :=
  match expression with
  | '*' :: rest => ofDirective (rest.takeWhile fun c => c.toNat != 0)
  | expression => (readAll limits expression).map query

end Request

end ClusterLog.Query
