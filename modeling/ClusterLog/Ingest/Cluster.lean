import ClusterLog.Index.File
import ClusterLog.Ingest.Node

/-!
# Ingesting clusters

An index is rebuilt from the node directories right below an artifacts directory.  Earlier documents
and ranges are forgotten first; if a node fails, the documents stored until then stay.
-/

namespace ClusterLog

namespace FileTree

/-- Rebuild an index from the nodes of a cluster. -/
def ingestCluster (tree : FileTree) (index : Path) (config : IndexConfig) (root : Path) :
    Except Failure (List NodeSummary) × FileTree :=
  if tree.isDirectory root then
    match tree.startWriting index config true with
    | .error failure => (.error failure, tree)
    | .ok (tree, writing) =>
      match Ingestion.ingestNodes tree (tree.directoriesIn root) writing with
      | (.ok summaries, writing) => (.ok summaries, tree.putStore index writing.close)
      | (.error failure, writing) => (.error failure, tree.putStore index writing.abort)
  else
    (.error (.artifactsNotFound root.text), tree)

end FileTree

end ClusterLog
