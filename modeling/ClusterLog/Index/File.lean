import ClusterLog.Files.Tree
import ClusterLog.Index.Search
import ClusterLog.Index.Writing

/-!
# Index files

The index that a path points to.  An empty file is an index that has never been written to; a file
with other contents is none.
-/

namespace ClusterLog

namespace FileTree

/-- The contents of the index that a path points to, if a file is there. -/
def store? (tree : FileTree) (path : Path) : Except Failure (Option Store) :=
  match tree.find? path with
  | some (.index store) => .ok (some store)
  | some (.file bytes) => if bytes.isEmpty then .ok (some {}) else .error (.notAnIndex path.text)
  | some .directory | none => .ok none

/-- The contents of the index that a path points to; a missing file is an empty index.  The
directory of the file has to be there. -/
def storeOrEmpty (tree : FileTree) (path : Path) : Except Failure Store := do
  if path.hasNull then
    throw .pathWithNull
  if tree.isDirectory path || (tree.locate path).isNone then
    throw (.indexFailure "unable to open database file")
  return (← tree.store? path).getD {}

/-- Put an index where a path points to. -/
def putStore (tree : FileTree) (path : Path) (store : Store) : FileTree :=
  match tree.locate path with
  | some location => tree.set location (.index store)
  | none => tree

/-- The number of documents of an index; a missing file has none. -/
def documentCount (tree : FileTree) (path : Path) : Except Failure Nat := do
  return ((← tree.store? path).getD {}).count

/-- Save the date ranges of hosts in an index. -/
def saveRanges (tree : FileTree) (path : Path) (ranges : LogRanges) : Except Failure FileTree := do
  return tree.putStore path ((← tree.storeOrEmpty path).saveRanges ranges)

/-- The contents of an index that has to be there. -/
def existingStore (tree : FileTree) (path : Path) : Except Failure Store := do
  match ← tree.store? path with
  | some store => return store
  | none => throw (.indexNotFound path.text)

/-- The saved date ranges of an index. -/
def loadRanges (tree : FileTree) (path : Path) : Except Failure LogRanges := do
  (← tree.existingStore path).loadRanges

/-- Begin to write to an index, and make the directory of its file. -/
def startWriting (tree : FileTree) (path : Path) (config : IndexConfig) (fresh : Bool) :
    Except Failure (FileTree × Writing) := do
  let tree ← tree.makeDirectory path.parent
  let writing := Writing.start config (← tree.storeOrEmpty path) fresh
  return (tree.putStore path writing.store, writing)

end FileTree

end ClusterLog
