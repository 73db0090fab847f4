import ClusterLog.Configuration
import ClusterLog.Index.Statistics
import ClusterLog.Index.Store
import ClusterLog.Text.Find

/-!
# Writing to an index

A writer collects documents and stores them batch by batch.  A write of entries sorts each of them
into exactly one class: entries without a timestamp, entries whose date cannot be read, noise, and
documents.
-/

namespace ClusterLog

open Text

/-- An index under a writer: what is stored, and the documents that wait for their batch. -/
structure Writing where
  config : IndexConfig := {}
  store : Store
  pending : List Document := []
deriving DecidableEq

/-- Whether a message holds one of the texts that mark noise. -/
def IndexConfig.isNoise (config : IndexConfig) (message : String) : Bool :=
  config.noiseMarkers.any fun marker => occursIn marker.toList message.toList

/-- What a write makes of an entry. -/
inductive EntryClass where
  /-- The entry has no timestamp. -/
  | skipped
  /-- The date of the entry cannot be read. -/
  | unreadable
  | noise
  | document (document : Document)
deriving DecidableEq

/-- The class of an entry of a host. -/
def IndexConfig.classify (config : IndexConfig) (host : String) (entry : Entry) : EntryClass :=
  if !entry.isValid then .skipped
  else if entry.date?.isNone then .unreadable
  else if entry.messageText.isEmpty || config.isNoise entry.messageText then .noise
  else .document ⟨host, entry.level, entry.messageText, entry.timestamp⟩

/-- The statistics of a write after one more entry. -/
def WriteStatistics.record (statistics : WriteStatistics) (entry : Entry) :
    EntryClass → WriteStatistics
  | .skipped => { statistics with skipped := statistics.skipped + 1 }
  | .unreadable => { statistics with
      valid := statistics.valid + 1, skipped := statistics.skipped + 1 }
  | .noise => { statistics with
      minTimestamp := statistics.minTimestamp.or (some entry.timestamp)
      valid := statistics.valid + 1
      noise := statistics.noise + 1 }
  | .document _ => { statistics with
      minTimestamp := statistics.minTimestamp.or (some entry.timestamp)
      maxTimestamp := some entry.timestamp
      valid := statistics.valid + 1
      written := statistics.written + 1 }

namespace Writing

/-- Begin to write to an index. -/
def start (config : IndexConfig) (store : Store) (fresh : Bool) : Writing where
  config
  store := store.prepare fresh

/-- Store the batch. -/
def flush (writing : Writing) : Writing :=
  { writing with store := writing.store.append writing.pending, pending := [] }

/-- Add a document, and store the batch if it is full. -/
def add (writing : Writing) (document : Document) : Writing :=
  let next := { writing with pending := writing.pending ++ [document] }
  if writing.config.batchSize ≤ next.pending.length then next.flush else next

/-- Write one entry of a host. -/
def writeEntry (host : String) (state : Writing × WriteStatistics) (entry : Entry) :
    Writing × WriteStatistics :=
  let (writing, statistics) := state
  let kind := writing.config.classify host entry
  let next := match kind with
    | .document document => writing.add document
    | _ => writing
  (next, statistics.record entry kind)

/-- Write the entries of a host and store the batch. -/
def write (writing : Writing) (host : String) (entries : List Entry) :
    Writing × WriteStatistics :=
  let (next, statistics) := entries.foldl (writeEntry host) (writing, {})
  (next.flush, statistics)

/-- Stop writing.  The batch is stored. -/
def close (writing : Writing) : Store :=
  writing.flush.store

/-- Break off writing.  The batch is lost. -/
def abort (writing : Writing) : Store :=
  writing.store

end Writing

end ClusterLog
