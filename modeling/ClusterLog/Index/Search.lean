import ClusterLog.Index.Store
import ClusterLog.Query.Request
import ClusterLog.Query.Scope
import ClusterLog.Text.Case
import ClusterLog.Text.Order

/-!
# Searching an index

A search finds the documents that a query asks for, the latest first and equally late ones in the
order in which they were added.  It takes as many of them as its limit says, and of these it shows
the ones inside their host's report window.
-/

namespace ClusterLog

open Calendar Query Text

/-- The greatest limit that the index can represent, one less than 2⁶³. -/
def maxLimit : Int := 9223372036854775807

/-- What is searched for. -/
structure Search where
  query : String
  /-- The level that documents must have, in any case. -/
  level : Option String := none
  /-- How many documents are taken, before the report window is applied. -/
  limit : Int := 100

/-- The failure that a fault of a query's expression is. -/
def failureOf (query : String) (fault : Fault) : Failure :=
  if Fault.isAboutSyntax fault.message then .invalidQuery query fault.message
  else .indexFailure fault.message

/-- What a query asks of the index. -/
def requestOf (query : String) : Except Failure Request :=
  match Request.ofExpression {} (scopeChars defaultColumn.toList query.toList) with
  | .ok request => .ok request
  | .error fault => .error (failureOf query fault)

/-- Whether a document comes before another one in the order of hits, or is as late. -/
def isNoEarlier (document other : Document) : Bool :=
  precedes other.timestamp.toList document.timestamp.toList

namespace Store

/-- The documents that answer a request and have a level, in the order of hits. -/
def hits (store : Store) (request : Request) (level : Option String) : List Document :=
  let found := store.documentList.filter fun document =>
    request.finds document && level.all (· == document.level)
  found.mergeSort isNoEarlier

end Store

/-- Whether a document is inside its host's report window. -/
def isInWindow (window : ReportWindow) (document : Document) : Except Failure Bool :=
  match window.lookup document.host with
  | none => .ok true
  | some start =>
    match document.entry.date? with
    | some date => .ok (decide (start < date))
    | none => .error (.unreadableDate document.timestamp)

/-- The documents inside their hosts' report windows. -/
def insideWindow (window : ReportWindow) : List Document → Except Failure (List Document)
  | [] => .ok []
  | document :: others => do
    let inside ← isInWindow window document
    let rest ← insideWindow window others
    return if inside then document :: rest else rest

/-- The hits of a search in a store, as many as its limit says. -/
def Store.fetch (store : Store) (search : Search) : Except Failure (List Document) := do
  if search.limit ≤ 0 then
    throw .limitNotPositive
  if (scopeChars defaultColumn.toList search.query.toList).isEmpty then
    throw .emptyQuery
  if store.documents.isNone then
    throw (.indexFailure "no such table: log_search")
  if maxLimit < search.limit then
    throw .limitTooLarge
  let request ← requestOf search.query
  let level := search.level.map fun level => String.ofList (upper level.toList)
  return (store.hits request level).take search.limit.toNat

/-- The entries that a search shows. -/
def Store.search (store : Store) (window : ReportWindow) (search : Search) :
    Except Failure (List Entry) := do
  let documents ← insideWindow window (← store.fetch search)
  return documents.map (·.entry)

end ClusterLog
