import ClusterLog.Index.Document
import ClusterLog.Window

/-!
# The contents of an index

An index keeps documents in the order in which they were added, and the date ranges of the hosts.
Either part may be missing: an index without documents has never been written to, and one without
ranges has none saved.
-/

namespace ClusterLog

open Calendar

/-- A saved date range, written as two timestamps. -/
structure SavedRange where
  host : String
  first : String
  last : String
deriving DecidableEq

/-- The host and the date range that were saved. -/
def SavedRange.read (saved : SavedRange) : Except Failure (String × DateRange) := do
  let first ← parseTimestamp saved.first
  let last ← parseTimestamp saved.last
  return (saved.host, ⟨first, last⟩)

/-- The contents of an index. -/
structure Store where
  /-- The documents, the oldest first, if there is a place for them. -/
  documents : Option (List Document) := none
  /-- The saved date ranges, if any were saved. -/
  ranges : Option (List SavedRange) := none
deriving DecidableEq

namespace Store

/-- The documents of an index; without a place for them there are none. -/
def documentList (store : Store) : List Document :=
  store.documents.getD []

/-- The number of documents. -/
def count (store : Store) : Nat :=
  store.documentList.length

/-- Make room for documents.  A fresh start forgets all documents and ranges. -/
def prepare (store : Store) (fresh : Bool) : Store :=
  if fresh then { documents := some [] } else { store with documents := some store.documentList }

/-- Add documents. -/
def append (store : Store) (batch : List Document) : Store :=
  { store with documents := some (store.documentList ++ batch) }

/-- Save date ranges in place of earlier ones. -/
def saveRanges (store : Store) (ranges : LogRanges) : Store :=
  { store with ranges := some (ranges.map fun (host, range) =>
      ⟨host, range.first.stamp, range.last.stamp⟩) }

/-- The saved date ranges; there are none if none were saved. -/
def loadRanges (store : Store) : Except Failure LogRanges :=
  (store.ranges.getD []).mapM SavedRange.read

end Store

end ClusterLog
