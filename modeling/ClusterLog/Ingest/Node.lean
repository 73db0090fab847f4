import ClusterLog.Appender.Discovery
import ClusterLog.Digest.Sha256
import ClusterLog.Entry.Record
import ClusterLog.Index.Writing
import ClusterLog.Ingest.Summary

/-!
# Ingesting nodes

The log files of a node are written to an index one after the other.  A file with the same first and
last lines as an earlier one of the node is a duplicate and is skipped.  What was written before a
failure stays written.
-/

namespace ClusterLog

open Text

/-- The files in which a node's host name is recorded, the preferred one first. -/
def hostnameFiles : List (List String) :=
  [["os", "hostname"], ["os-metrics", "hostname"]]

/-- How many lines at both ends of a file its fingerprint covers. -/
def fingerprintLines : Int := 100

namespace FileTree

/-- The host name that a file records, if it is a proper one. -/
def recordedHost? (tree : FileTree) (path : Path) : Option String :=
  if tree.isFile path then
    match tree.plainText path with
    | .ok text =>
      let name := String.ofList (trim (unifyLineEnds text))
      if name.isEmpty || name == "localhost" then none else some name
    | .error _ => none
  else
    none

/-- The host of a node: the recorded name, or else its directory's name up to the first
underscore. -/
def hostOf (tree : FileTree) (node : Path) : String :=
  let recorded := hostnameFiles.findSome? fun names =>
    tree.recordedHost? { node with names := node.names ++ names }
  recorded.getD (String.ofList (node.name.toList.takeWhile (· != '_')))

/-- What a fingerprint covers of a file: its first lines, a null character, and its last lines. -/
def fingerprintText (count : Nat) (lines : List (List Char)) : List Char :=
  (lines.take count).flatten ++ [Char.ofNat 0] ++ (lines.drop (lines.length - count)).flatten

/-- The digest of the first and last lines of a file. -/
def fingerprint (tree : FileTree) (path : Path) (count : Int) : Except Failure String := do
  if count < 0 then
    throw .negativeCount
  let lines ← tree.lines path
  return (Digest.sha256 (encodeUtf8 (fingerprintText count.toNat lines))).hex

/-- The entries of a log file. -/
def entries (tree : FileTree) (path : Path) (grammar : Layout.Grammar) :
    Except Failure (List Entry) := do
  if tree.isFile path then
    return entriesOfLines grammar (← tree.lines path)
  else
    throw (.logFileNotFound path.text)

end FileTree

/-- Work that writes to an index and may fail; a failure does not undo what was written. -/
abbrev Ingestion := ExceptT Failure (StateM Writing)

namespace Ingestion

/-- Write the entries of a host. -/
def write (host : String) (entries : List Entry) : Ingestion WriteStatistics := fun writing =>
  let (next, statistics) := writing.write host entries
  (.ok statistics, next)

/-- What has become of a node's files so far. -/
structure Progress where
  /-- The fingerprints of the files that were indexed. -/
  seen : List String := []
  /-- The statistics of the files that were indexed, in the order of processing. -/
  files : List (String × WriteStatistics) := []
  duplicates : List String := []

/-- Index a file, or skip it as a duplicate. -/
def ingestFile (tree : FileTree) (grammar : Layout.Grammar) (host : String) (progress : Progress)
    (path : Path) : Ingestion Progress := do
  let fingerprint ← tree.fingerprint path fingerprintLines
  if progress.seen.contains fingerprint then
    return { progress with duplicates := progress.duplicates ++ [path.text] }
  else
    let statistics ← write host (← tree.entries path grammar)
    return { progress with
      seen := fingerprint :: progress.seen
      files := progress.files ++ [(path.text, statistics)] }

/-- Index the files of a node one after the other. -/
def ingestFiles (tree : FileTree) (grammar : Layout.Grammar) (host : String) :
    Progress → List Path → Ingestion Progress
  | progress, [] => pure progress
  | progress, path :: paths => do
    ingestFiles tree grammar host (← ingestFile tree grammar host progress path) paths

/-- Index the log files of a node, under a given host name or its own. -/
def ingestNode (tree : FileTree) (node : Path) (host : Option String) : Ingestion NodeSummary := do
  if tree.isDirectory node then
    let host := match host with
      | some host => if host.isEmpty then tree.hostOf node else host
      | none => tree.hostOf node
    let (paths, appender) ← tree.logFiles node
    let progress ← ingestFiles tree (Layout.compile appender.layout) host {} paths
    return { host, appender, files := progress.files, duplicates := progress.duplicates }
  else
    throw (.nodeNotFound node.text)

/-- Index nodes one after the other. -/
def ingestNodes (tree : FileTree) : List Path → Ingestion (List NodeSummary)
  | [] => pure []
  | node :: nodes => do
    let summary ← ingestNode tree node none
    let others ← ingestNodes tree nodes
    return summary :: others

end Ingestion

end ClusterLog
