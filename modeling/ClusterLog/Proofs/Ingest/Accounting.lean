import ClusterLog.Proofs.Ingest.Ranges
import Mathlib.Algebra.GroupWithZero.Nat
import Mathlib.Data.List.Basic

/-!
# Accounts of clusters

An ingestion of a cluster that returns stores the documents of all files of all
nodes, in the order of the nodes and files, and nothing else.  Its summaries
count them, and the date ranges that follow from the summaries are those of the
hosts that have documents.
-/

namespace ClusterLog

namespace NodeReading

variable {tree : FileTree} {config : IndexConfig} {reading : NodeReading}

/-- The documents that the summary of a node counts. -/
theorem IsSound.sum_written (sound : reading.IsSound tree config) :
    (reading.summary.files.map (·.2.written)).sum =
      (reading.documents config).length := by
  rw [sound.files, List.map_map, documents, List.length_flatMap]
  congr 1
  apply List.map_congr_left
  intro file member
  exact IndexConfig.written_statisticsOf

theorem host_of_mem_documents {document : Document}
    (member : document ∈ reading.documents config) :
    document.host = reading.summary.host := by
  rcases List.mem_flatMap.mp member with ⟨file, -, written⟩
  rcases IndexConfig.exists_entry_of_mem_documentsOf written with
    ⟨entry, -, -, rfl⟩
  rfl

end NodeReading

namespace FileTree

variable {tree after : FileTree} {index root : Path} {config : IndexConfig}
variable {summaries : List NodeSummary}

/-- What an ingestion that returns has read. -/
theorem ingestCluster_returns
    (returns : tree.ingestCluster index config root = (.ok summaries, after)) :
    ∃ (started : FileTree) (readings : List NodeReading),
      tree.emptied index = .ok started ∧
      readings.map NodeReading.summary = summaries ∧
      (∀ reading ∈ readings, reading.IsSound started config) ∧
      readings.map NodeReading.logs = (tree.clusterLogs index root).items ∧
      after = started.putStore index {
        documents := some ((tree.clusterLogs index root).items.flatMap
          (NodeLogs.documents config)) } := by
  cases there : tree.isDirectory root with
  | false =>
      rw [ingestCluster, there] at returns
      cases returns
  | true =>
      cases empties : tree.emptied index with
      | error failure =>
          rw [ingestCluster_of_error there empties] at returns
          cases returns
      | ok started =>
          rcases ingestCluster_eq config there empties with
            ⟨outcome, result, ends⟩
          rw [result] at returns
          cases returns
          cases failure : (tree.clusterLogs index root).failure with
          | some failure =>
              rw [failure] at ends
              cases ends
          | none =>
              rw [failure] at ends
              cases ends with
              | returns found =>
                  rcases found with ⟨readings, same, sound, logs⟩
                  exact ⟨started, readings, rfl, same, sound, logs, rfl⟩

/-- What an ingestion that returns has stored. -/
theorem ingestCluster_eq_ok
    (returns : tree.ingestCluster index config root = (.ok summaries, after)) :
    ∃ (started : FileTree) (readings : List NodeReading) (store : Store),
      readings.map NodeReading.summary = summaries ∧
      (∀ reading ∈ readings, reading.IsSound started config) ∧
      after.find? index = some (.index store) ∧
      store.documents =
        some (readings.flatMap (NodeReading.documents config)) ∧
      after.current = tree.current := by
  rcases ingestCluster_returns returns with
    ⟨started, readings, empties, same, sound, logs, rfl⟩
  rcases emptied_eq_ok empties with
    ⟨ready, location, makes, place, noDirectory, rfl⟩
  have found := find?_putStore place noDirectory { documents := some [] }
  have current : (ready.putStore index { documents := some [] }).current =
      tree.current :=
    (current_putStore _ _).trans (current_of_makeDirectory makes)
  refine ⟨_, readings, _, same, sound, find?_putStore_of_find? found _, ?_,
    (current_putStore _ _).trans current⟩
  rw [← logs, List.flatMap_map]
  rfl

/--
The number of stored documents is the sum of the numbers of documents that the
summaries say were written, and the hosts with a date range are those of the
stored documents.
-/
theorem ingestCluster_accounts
    (returns : tree.ingestCluster index config root = (.ok summaries, after)) :
    after.documentCount index =
        .ok ((summaries.flatMap (·.files)).map (·.2.written)).sum ∧
    ∃ ranges,
      logRanges summaries = .ok ranges ∧
      ∀ host, host ∈ ranges.map Prod.fst ↔
        ∃ document ∈ after.documentsAt index, document.host = host := by
  rcases ingestCluster_eq_ok returns with
    ⟨started, readings, store, rfl, sound, found, stored, -⟩
  have documents : store.documentList =
      readings.flatMap (NodeReading.documents config) := by
    simp [Store.documentList, stored]
  constructor
  · have each : (readings.map NodeReading.summary).map (fun summary =>
        (summary.files.map (·.2.written)).sum) =
          readings.map fun reading => (reading.documents config).length := by
      rw [List.map_map]
      apply List.map_congr_left
      intro reading member
      exact (sound reading member).sum_written
    have written : (((readings.map NodeReading.summary).flatMap
        (·.files)).map (·.2.written)).sum = store.count := by
      rw [Store.count, documents, List.length_flatMap, ← each,
        List.map_flatMap, List.flatMap_def, List.sum_flatten, List.map_map]
      rfl
    rw [documentCount_of_find? found, written]
  · refine ⟨_, NodeReading.logRangesFrom_eq sound [], ?_⟩
    intro host
    rw [NodeReading.mem_keys_foldl, documentsAt_of_find? found, documents]
    constructor
    · rintro (none | ⟨reading, member, nonempty, rfl⟩)
      · cases none
      · rcases List.exists_mem_of_ne_nil _ nonempty with ⟨document, inside⟩
        exact ⟨document, List.mem_flatMap.mpr ⟨reading, member, inside⟩,
          NodeReading.host_of_mem_documents inside⟩
    · rintro ⟨document, member, rfl⟩
      rcases List.mem_flatMap.mp member with ⟨reading, inside, written⟩
      exact Or.inr ⟨reading, inside, List.ne_nil_of_mem written,
        (NodeReading.host_of_mem_documents written).symm⟩

end FileTree

/-- A run over the nodes of a cluster is known by what is shown of its summaries. -/
theorem exists_ingestCluster_eq {Shown : Type} {tree started : FileTree}
    {index root : Path} {config : IndexConfig} {writing : Writing}
    {nodes : List Path} {view : List NodeSummary → Shown} {shown : Shown}
    (isRoot : tree.isDirectory root = true)
    (starts : tree.startWriting index config true = .ok (started, writing))
    (listed : started.directoriesIn root = nodes)
    (ingests : ((Ingestion.ingestNodes started nodes).run writing).1.toOption.map
      view = some shown) :
    ∃ summaries after,
      tree.ingestCluster index config root = (.ok summaries, after) ∧
      view summaries = shown := by
  rcases exists_ok_of_map_toOption ingests with ⟨summaries, outcome, same⟩
  refine ⟨summaries, started.putStore index
    ((Ingestion.ingestNodes started nodes).run writing).2.close, ?_, same⟩
  have run : Ingestion.ingestNodes started nodes writing =
      (.ok summaries,
        ((Ingestion.ingestNodes started nodes).run writing).2) :=
    Prod.ext outcome rfl
  rw [FileTree.ingestCluster, if_pos isRoot, starts]
  dsimp only
  rw [listed, run]

/-! ## A cluster of one node -/

namespace OneNode

/-- A record in the stock layout. -/
def record (day message : String) : String :=
  "INFO  [main] " ++ day ++ " 09:30:00,123  " ++ message ++ "\n"

/-- A file with one record. -/
def file (day message : String) : Node :=
  .file ((record day message).toList.map fun c => UInt8.ofNat c.toNat)

/-- A node with one log file. -/
def tree : FileTree where
  nodes := [
    (["cluster"], .directory), (["cluster", "n1"], .directory),
    (["cluster", "n1", "logs"], .directory),
    (["cluster", "n1", "logs", "system.log"],
      file "2020-01-31" "A.java:1 - hello")]

def root : Path := ⟨.root, ["cluster"]⟩

def index : Path := ⟨.root, ["logs.db"]⟩

def node : Path := ⟨.root, ["cluster", "n1"]⟩

/-- The files when reading begins: the index is there and empty. -/
def started : FileTree :=
  tree.set ["logs.db"] (.index { documents := some [] })

def writing : Writing where
  store := { documents := some [] }

theorem starts :
    tree.startWriting index {} true = .ok (started, writing) :=
  rfl

theorem directoriesIn_root : started.directoriesIn root = [node] := by
  have place : started.locate root = some ["cluster"] := rfl
  rw [FileTree.directoriesIn,
    FileTree.below_of_pairwise place (by decide +kernel)]
  decide +kernel

/-- The date of the record. -/
def time : Calendar.DateTime :=
  ⟨⟨2020, 1, 31, by decide⟩, 9, 30, 0, by decide⟩

/-- The summary of the node and the date range that follows from it. -/
theorem returns :
    ∃ summary after,
      tree.ingestCluster index {} root = (.ok [summary], after) ∧
      summary.host = "n1" ∧
      logRanges [summary] = .ok [("n1", ⟨time, time⟩)] := by
  have ingests :
      ((Ingestion.ingestNodes started [node]).run writing).1.toOption.map
        (fun summaries =>
          (summaries.map NodeSummary.host, (logRanges summaries).toOption)) =
        some (["n1"], some [("n1", ⟨time, time⟩)]) := by
    decide +kernel
  rcases exists_ingestCluster_eq rfl starts directoriesIn_root ingests with
    ⟨summaries, after, returns, same⟩
  rcases Prod.mk.inj same with ⟨hosts, ranges⟩
  rcases List.map_eq_singleton_iff.mp hosts with ⟨summary, rfl, host⟩
  exact ⟨summary, after, returns, host, eq_ok_of_toOption ranges⟩

end OneNode

/-! ## A cluster with two nodes of one host -/

namespace SharedHost

open OneNode

/-- Two nodes of one host, and one of another host that has nothing but noise. -/
def tree : FileTree where
  nodes := [
    (["cluster"], .directory), (["cluster", "n1_new"], .directory),
    (["cluster", "n1_new", "logs"], .directory),
    (["cluster", "n1_new", "logs", "system.log"],
      file "2020-01-31" "A.java:1 - hello again"),
    (["cluster", "n1_old"], .directory),
    (["cluster", "n1_old", "logs"], .directory),
    (["cluster", "n1_old", "logs", "system.log"],
      file "2020-01-10" "A.java:1 - hello"),
    (["cluster", "n2"], .directory), (["cluster", "n2", "logs"], .directory),
    (["cluster", "n2", "logs", "system.log"],
      file "2020-01-20" "StatusLogger.java:1 - a")]

def nodes : List Path :=
  [⟨.root, ["cluster", "n1_new"]⟩, ⟨.root, ["cluster", "n1_old"]⟩,
    ⟨.root, ["cluster", "n2"]⟩]

/-- The files when reading begins: the index is there and empty. -/
def started : FileTree :=
  tree.set ["logs.db"] (.index { documents := some [] })

theorem starts :
    tree.startWriting index {} true = .ok (started, writing) :=
  rfl

theorem directoriesIn_root : started.directoriesIn root = nodes := by
  have place : started.locate root = some ["cluster"] := rfl
  rw [FileTree.directoriesIn,
    FileTree.below_of_pairwise place (by decide +kernel)]
  decide +kernel

/-- The range from the older record to the newer one. -/
def range : DateRange where
  first := ⟨⟨2020, 1, 10, by decide⟩, 9, 30, 0, by decide⟩
  last := ⟨⟨2020, 1, 31, by decide⟩, 9, 30, 0, by decide⟩

/-- How many documents each file of each node gives. -/
def written (summaries : List NodeSummary) : List (String × List Nat) :=
  summaries.map fun summary => (summary.host, summary.files.map (·.2.written))

/-- The summaries of the nodes and the date range that follows from them. -/
theorem returns :
    ∃ summaries after,
      tree.ingestCluster index {} root = (.ok summaries, after) ∧
      written summaries = [("n1", [1]), ("n1", [1]), ("n2", [0])] ∧
      logRanges summaries = .ok [("n1", range)] := by
  have ingests :
      ((Ingestion.ingestNodes started nodes).run writing).1.toOption.map
        (fun summaries => (written summaries, (logRanges summaries).toOption)) =
        some ([("n1", [1]), ("n1", [1]), ("n2", [0])], some [("n1", range)]) := by
    decide +kernel
  rcases exists_ingestCluster_eq rfl starts directoriesIn_root ingests with
    ⟨summaries, after, returns, same⟩
  rcases Prod.mk.inj same with ⟨each, ranges⟩
  exact ⟨summaries, after, returns, each, eq_ok_of_toOption ranges⟩

end SharedHost

theorem ingestCluster_accounts_sharedHost :
    ∃ summaries after,
      SharedHost.tree.ingestCluster OneNode.index {} OneNode.root =
        (.ok summaries, after) ∧
      SharedHost.written summaries = [("n1", [1]), ("n1", [1]), ("n2", [0])] ∧
      after.documentCount OneNode.index = .ok 2 ∧
      logRanges summaries = .ok [("n1", SharedHost.range)] ∧
      (∃ document ∈ after.documentsAt OneNode.index, document.host = "n1") ∧
      ¬ ∃ document ∈ after.documentsAt OneNode.index,
        document.host = "n2" := by
  rcases SharedHost.returns with ⟨summaries, after, returns, written, ranged⟩
  rcases FileTree.ingestCluster_accounts returns with
    ⟨counted, ranges, defined, keys⟩
  obtain rfl := Except.ok.inj (ranged.symm.trans defined)
  have files : ((summaries.flatMap (·.files)).map (·.2.written)) =
      (SharedHost.written summaries).flatMap (·.2) := by
    rw [SharedHost.written, List.map_flatMap, List.flatMap_map]
  rw [files, written] at counted
  exact ⟨summaries, after, returns, written, counted, ranged,
    (keys "n1").mp (by decide), mt (keys "n2").mpr (by decide)⟩

end ClusterLog
