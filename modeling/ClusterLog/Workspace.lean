import ClusterLog.Files.Home
import ClusterLog.Ingest.Cluster

/-!
# Workspaces

Files, environment variables, and the indexes that are in use.  An index in use has settings, which
are fixed when it is first used, at most one open writer and at most one searcher.  While its writer
is open it cannot be searched.  When the file of an index is removed, its searcher still sees what
the file held, but its writer can store nothing any more.
-/

namespace ClusterLog

/-- A view of an index through a report window. -/
structure Searcher where
  window : ReportWindow
  isOpen : Bool := true
  /-- What the index held when its file was removed. -/
  kept : Option Store := none

/-- An index in use. -/
structure Handle where
  config : IndexConfig
  /-- The documents that wait for their batch, if a writer is open. -/
  pending : Option (List Document) := none
  /-- Whether the file was removed under the open writer. -/
  hasLostFile : Bool := false
  searcher : Option Searcher := none

/-- An index in use whose file, with these contents, is removed. -/
def Handle.loseFile (handle : Handle) (store : Store) : Handle :=
  { handle with
    hasLostFile := true
    searcher := handle.searcher.map fun searcher =>
      { searcher with kept := searcher.kept.or (some store) } }

/-- Files, environment variables and indexes in use. -/
structure Workspace where
  tree : FileTree := {}
  environment : Environment := []
  /-- The home directories of users. -/
  accounts : Accounts := []
  /-- The settings of indexes, before the environment overrides them. -/
  settings : IndexConfig := {}
  handles : List (Path × Handle) := []

/-- Work in a workspace that may fail; a failure does not undo what was done. -/
abbrev Work := ExceptT Failure (StateM Workspace)

namespace Work

/-- Change the files. -/
def setTree (tree : FileTree) : Work Unit :=
  modify fun workspace => { workspace with tree }

/-- Set or unset an environment variable. -/
def assign (name : String) (value : Option String) : Work Unit :=
  modify fun workspace =>
    { workspace with environment := workspace.environment.assign name value }

/-- Put a file or a directory. -/
def put (path : Path) (node : Node) : Work Unit := do
  setTree (← (← get).tree.put path node)

/-- Remove a file or a directory. -/
def remove (path : Path) : Work Unit :=
  modify fun workspace =>
    let tree := workspace.tree.remove path
    let handles := workspace.handles.map fun (index, handle) =>
      match workspace.tree.store? index, tree.find? index with
      | .ok (some store), none => (index, handle.loseFile store)
      | _, _ => (index, handle)
    { workspace with tree, handles }

/-- The index that a path points to, taken into use if it is not in use. -/
def handle (path : Path) : Work Handle := do
  let workspace ← get
  match workspace.handles.lookup path with
  | some handle => return handle
  | none =>
    let handle : Handle := { config := ← workspace.settings.resolve workspace.environment }
    set { workspace with handles := (path, handle) :: workspace.handles }
    return handle

/-- Change an index in use. -/
def setHandle (path : Path) (handle : Handle) : Work Unit :=
  modify fun workspace =>
    { workspace with handles := (path, handle) :: workspace.handles.filter (·.1 != path) }

/-! ## Writing -/

/-- Open the writer of an index. -/
def openWriter (path : Path) (fresh : Bool) : Work Unit := do
  let handle ← handle path
  if handle.pending.isSome then
    throw (.writerOpen path.text)
  let (tree, writing) ← (← get).tree.startWriting path handle.config fresh
  setTree tree
  setHandle path { handle with pending := some writing.pending, hasLostFile := false }

/-- The index under its open writer; one that has lost its file is empty. -/
def writing (path : Path) : Work Writing := do
  let handle ← handle path
  match handle.pending with
  | some pending =>
    let store ← if handle.hasLostFile then pure {} else (← get).tree.storeOrEmpty path
    return { config := handle.config, store, pending }
  | none => throw .noWriter

/-- Store what a writer has stored in the file of an index, if it still has one. -/
def saveStore (path : Path) (store : Store) : Work Unit := do
  if (← handle path).hasLostFile then
    if store.count != 0 then
      throw (.indexFailure "attempt to write a readonly database")
  else
    setTree ((← get).tree.putStore path store)

/-- Put an index under its open writer back.  Where it has lost its file, all documents go on
waiting. -/
def setWriting (path : Path) (writing : Writing) : Work Unit := do
  let handle ← handle path
  let lost := if handle.hasLostFile then writing.store.documentList else []
  setHandle path { handle with pending := some (lost ++ writing.pending) }
  saveStore path writing.store

/-- Close the writer of an index. -/
def endWriting (path : Path) (store : Store) : Work Unit := do
  setHandle path { ← handle path with pending := none }
  saveStore path store

/-- Close the writer of an index; its batch is stored. -/
def closeWriter (path : Path) : Work Unit := do
  endWriting path (← writing path).close

/-- Break off the writer of an index; its batch is lost. -/
def abortWriter (path : Path) : Work Unit := do
  endWriting path (← writing path).abort

/-- Write the entries of a host. -/
def write (path : Path) (host : String) (entries : List Entry) : Work WriteStatistics := do
  let (next, statistics) := (← writing path).write host entries
  setWriting path next
  return statistics

/-- The number of documents of an index. -/
def count (path : Path) : Work Nat := do
  let _ ← handle path
  (← get).tree.documentCount path

/-- Add a document; the number of stored documents after it. -/
def add (path : Path) (document : Document) : Work Nat := do
  setWriting path ((← writing path).add document)
  count path

/-- Store the batch; the number of stored documents after it. -/
def flush (path : Path) : Work Nat := do
  setWriting path (← writing path).flush
  count path

/-- Whether the writer of an index drops a message as noise. -/
def isNoise (path : Path) (message : String) : Work Bool := do
  return (← writing path).config.isNoise message

/-- Index the log files of a node through the open writer. -/
def ingestNode (path node : Path) (host : Option String) : Work NodeSummary := do
  let (result, next) := Ingestion.ingestNode (← get).tree node host (← writing path)
  setWriting path next
  result

/-! ## Whole indexes -/

/-- Save the date ranges of hosts. -/
def saveRanges (path : Path) (ranges : LogRanges) : Work Unit := do
  let _ ← handle path
  setTree (← (← get).tree.saveRanges path ranges)

/-- The saved date ranges of hosts. -/
def loadRanges (path : Path) : Work LogRanges := do
  let _ ← handle path
  (← get).tree.loadRanges path

/-- Rebuild an index with given settings from the nodes of a cluster. -/
def rebuild (path : Path) (config : IndexConfig) (root : Path) : Work (List NodeSummary) := do
  let (result, tree) := (← get).tree.ingestCluster path config root
  setTree tree
  result

/-- Rebuild an index in use from the nodes of a cluster. -/
def ingestCluster (path root : Path) : Work (List NodeSummary) := do
  let handle ← handle path
  if handle.pending.isSome && (← get).tree.isDirectory root then
    throw (.writerOpen path.text)
  rebuild path handle.config root

/-! ## Searching -/

/-- Open a searcher of an index. -/
def openSearcher (path : Path) (window : ReportWindow) : Work Unit := do
  let handle ← handle path
  if handle.pending.isSome then
    throw (.writerBlocksSearch path.text)
  if (← get).tree.isFile path then
    setHandle path { handle with searcher := some { window := window } }
  else
    throw (.indexNotFound path.text)

/-- Close the searcher of an index. -/
def closeSearcher (path : Path) : Work Unit := do
  let handle ← handle path
  setHandle path { handle with searcher := handle.searcher.map ({ · with isOpen := false }) }

/-- Search an index through its searcher. -/
def search (path : Path) (search : Search) : Work (List Entry) := do
  match (← handle path).searcher with
  | none => throw .noSearcher
  | some searcher =>
    if searcher.isOpen then
      let store ← match searcher.kept with
        | some store => pure store
        | none => (← get).tree.existingStore path
      store.search searcher.window search
    else
      throw .searcherClosed

end Work

end ClusterLog
