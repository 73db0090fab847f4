import ClusterLog.Proofs.Ingest.Accounting
import ClusterLog.Proofs.Workspace.WriterSession

/-!
# Rebuilds

A rebuild of an index forgets what earlier runs have left in it, whether it
returns or fails: it leaves the documents of the files that were read, and no
ranges.
-/

namespace ClusterLog

namespace FileTree

variable {tree left : FileTree} {index root : Path} {config : IndexConfig}

/-- A rebuild goes as if there had been no earlier run. -/
theorem LeftByRuns.ingestCluster_eq (prior : tree.LeftByRuns index left)
    (config : IndexConfig) (there : tree.isDirectory root = true) :
    left.ingestCluster index config root =
      tree.ingestCluster index config root := by
  cases empties : tree.emptied index with
  | error failure =>
      cases prior with
      | untouched => rfl
      | stored others => cases empties.symm.trans others
  | ok started =>
      have stays := prior.isDirectory there
      have same := prior.emptied_eq
      rw [FileTree.ingestCluster, FileTree.ingestCluster, if_pos stays,
        if_pos there, startWriting_fresh, startWriting_fresh, same, empties]
      rfl

theorem store?_of_existingStore {store : Store}
    (there : tree.existingStore index = .ok store) :
    tree.store? index = .ok (some store) := by
  rcases bind_eq_ok.mp there with ⟨contents, found, ends⟩
  cases contents with
  | none => cases ends
  | some same =>
      rw [found, pure_eq_ok.mp ends]

/-- An index that cannot be emptied holds nothing. -/
theorem eq_empty_of_emptied_eq_error {failure : Failure} {store : Store}
    (fails : tree.emptied index = .error failure)
    (there : tree.store? index = .ok (some store)) :
    store = {} := by
  rw [store?] at there
  split at there
  · rename_i found
    rw [emptied, startWriting_of_find? found] at fails
    cases fails
  · split at there
    · cases there
      rfl
    · cases there
  · cases there
  · cases there

theorem loadRanges_of_find? {store : Store}
    (found : tree.find? index = some (.index store)) :
    tree.loadRanges index = store.loadRanges := by
  rw [loadRanges, existingStore, store?_of_find? found]
  rfl

theorem documentsAt_of_emptied_eq_error {failure : Failure}
    (fails : tree.emptied index = .error failure) :
    tree.documentsAt index = [] := by
  rw [documentsAt]
  split
  · rename_i store there
    rw [eq_empty_of_emptied_eq_error fails there]
    rfl
  · rfl

/-- What a rebuild leaves of an index, whether it returns or fails: the
documents of the files that were read, and no ranges. -/
structure IsRebuilt (tree after : FileTree) (index root : Path)
    (config : IndexConfig) : Prop where
  documents : after.documentsAt index =
    (tree.clusterLogs index root).items.flatMap (NodeLogs.documents config)
  noRanges : ∀ ranges, after.loadRanges index = .ok ranges → ranges = []

/-- The summaries say what was made of the log files. -/
def Summarizes (config : IndexConfig) (nodes : List NodeLogs)
    (summaries : List NodeSummary) : Prop :=
  summaries.map (fun summary => (summary.host, summary.files)) =
    nodes.map fun logs =>
      (logs.host, logs.files.map (FileReading.report config logs.host))

theorem summarizes_of_isSound {readings : List NodeReading}
    (sound : ∀ reading ∈ readings, reading.IsSound tree config) :
    Summarizes config (readings.map NodeReading.logs)
      (readings.map NodeReading.summary) := by
  rw [Summarizes, List.map_map, List.map_map]
  apply List.map_congr_left
  intro reading member
  exact congrArg (Prod.mk _) (sound reading member).files

theorem clusterLogs_of_emptied_eq_error {failure : Failure}
    (fails : tree.emptied index = .error failure) :
    tree.clusterLogs index root = { failure := some failure } := by
  rw [clusterLogs, fails]

/-- An index that cannot be emptied is as after a rebuild that reads nothing. -/
theorem isRebuilt_of_emptied_eq_error {failure : Failure}
    (fails : tree.emptied index = .error failure) :
    tree.IsRebuilt tree index root config := by
  constructor
  · rw [clusterLogs_of_emptied_eq_error fails]
    exact documentsAt_of_emptied_eq_error fails
  · intro ranges loads
    rcases bind_eq_ok.mp loads with ⟨store, found, loads⟩
    rw [eq_empty_of_emptied_eq_error fails
      (store?_of_existingStore found)] at loads
    cases loads
    rfl

/-- A rebuild ends as the reading of the log files does. -/
theorem ingestCluster_rebuilds (config : IndexConfig)
    (there : tree.isDirectory root = true) :
    ∃ result after,
      tree.ingestCluster index config root = (result, after) ∧
      tree.IsRebuilt after index root config ∧
      Ends (Summarizes config (tree.clusterLogs index root).items)
        (tree.clusterLogs index root).failure result ∧
      ∀ started, tree.emptied index = .ok started →
        ∃ store : Store,
          after.find? index = some (.index store) ∧
          after.loadRanges index = .ok [] := by
  cases empties : tree.emptied index with
  | error failure =>
      refine ⟨_, _, ingestCluster_of_error there empties,
        isRebuilt_of_emptied_eq_error empties, ?_, ?_⟩
      · rw [clusterLogs_of_emptied_eq_error empties]
        exact .fails failure
      · intro started same
        cases same
  | ok started =>
      rcases ingestCluster_eq config there empties with ⟨result, runs, ends⟩
      rcases emptied_eq_ok empties with
        ⟨ready, location, makes, place, noDirectory, rfl⟩
      have found := find?_putStore_of_find?
        (find?_putStore place noDirectory { documents := some [] })
        { documents := some ((tree.clusterLogs index root).items.flatMap
          (NodeLogs.documents config)) }
      have empty := loadRanges_of_find? found
      refine ⟨result, _, runs, ⟨?_, ?_⟩, ?_, fun _ _ => ⟨_, found, empty⟩⟩
      · rw [documentsAt_of_find? found]
        rfl
      · intro ranges loads
        exact (Except.ok.inj (empty.symm.trans loads)).symm
      · generalize (tree.clusterLogs index root).items = nodes at ends ⊢
        generalize (tree.clusterLogs index root).failure = failure at ends ⊢
        cases ends with
        | fails failure => exact .fails failure
        | returns holds =>
            rcases holds with ⟨readings, rfl, sound, rfl⟩
            exact .returns (summarizes_of_isSound sound)

end FileTree

namespace Workspace

/-- The index is in use with given settings, or can be taken into use with
them, and its writer is not open. -/
def IsIdle (workspace : Workspace) (index : Path) (config : IndexConfig) :
    Prop :=
  ∃ handle ready,
    (Work.handle index).run workspace = (.ok handle, ready) ∧
    handle.config = config ∧
    handle.pending = none

variable {before other : Workspace} {index root : Path} {config : IndexConfig}

theorem IsIdle.run_ingestCluster (idle : before.IsIdle index config)
    (root : Path) :
    ∃ handle after,
      (Work.ingestCluster index root).run before =
        ((before.tree.ingestCluster index config root).1, after) ∧
      after.tree = (before.tree.ingestCluster index config root).2 ∧
      after.handles.lookup index = some handle ∧
      handle.pending = none := by
  rcases idle with ⟨handle, ready, asked, rfl, closed⟩
  rcases Work.run_handle_eq_ok asked with ⟨known, sameTree⟩
  refine ⟨handle, { ready with
    tree := (before.tree.ingestCluster index handle.config root).2 }, ?_, rfl,
    known, closed⟩
  have shut : (handle.pending.isSome && ready.tree.isDirectory root) = false := by
    rw [closed]
    rfl
  rw [Work.ingestCluster, run_bind_of_ok asked, run_bind_of_ok Work.run_get,
    if_neg (by simp [shut]), Work.run_rebuild, sameTree]

/--
Two rebuilds of an index after different earlier runs.  They end with the same
result and the same files: the documents are those of the log files that were
read up to the first failure, in the order of processing, and there are no
ranges.  If the index can be emptied at all, it can be opened again.  Without
the root directory nothing changes.
-/
theorem rebuild_forgets {tree : FileTree} {index root : Path}
    {config : IndexConfig} {before other : Workspace}
    (idle : before.IsIdle index config)
    (otherIdle : other.IsIdle index config)
    (prior : tree.LeftByRuns index before.tree)
    (otherPrior : tree.LeftByRuns index other.tree) :
    (tree.isDirectory root = true →
      ∃ result after otherAfter,
        (Work.ingestCluster index root).run before = (result, after) ∧
        (Work.ingestCluster index root).run other = (result, otherAfter) ∧
        otherAfter.tree = after.tree ∧
        tree.IsRebuilt after.tree index root config ∧
        Ends (FileTree.Summarizes config (tree.clusterLogs index root).items)
          (tree.clusterLogs index root).failure result ∧
        ∀ started, tree.emptied index = .ok started →
          after.tree.loadRanges index = .ok [] ∧
          after.IsFree index ∧
          otherAfter.IsFree index) ∧
    (before.tree.isDirectory root = false →
      ∃ after,
        (Work.ingestCluster index root).run before =
          (.error (.artifactsNotFound root.text), after) ∧
        after.tree = before.tree) := by
  rcases idle.run_ingestCluster root with
    ⟨handle, after, runs, leaves, known, closed⟩
  rcases otherIdle.run_ingestCluster root with
    ⟨otherHandle, otherAfter, otherRuns, otherLeaves, otherKnown, otherClosed⟩
  constructor
  · intro there
    rcases FileTree.ingestCluster_rebuilds config there with
      ⟨result, files, rebuilds, rebuilt, ends, opens⟩
    -- Emptying the index makes each run the one without any earlier run.
    rw [prior.ingestCluster_eq config there, rebuilds] at runs leaves
    rw [otherPrior.ingestCluster_eq config there, rebuilds]
      at otherRuns otherLeaves
    dsimp only at leaves otherLeaves
    refine ⟨result, after, otherAfter, runs, otherRuns,
      otherLeaves.trans leaves.symm, leaves ▸ rebuilt, ends, ?_⟩
    intro started empties
    rcases opens started empties with ⟨store, found, empty⟩
    have rests : after.Rests index store :=
      ⟨⟨handle, known, closed⟩, leaves ▸ found⟩
    have otherRests : otherAfter.Rests index store :=
      ⟨⟨otherHandle, otherKnown, otherClosed⟩, otherLeaves ▸ found⟩
    exact ⟨leaves ▸ empty, rests.isFree, otherRests.isFree⟩
  · intro missing
    have refuses : before.tree.ingestCluster index config root =
        (.error (.artifactsNotFound root.text), before.tree) := by
      rw [FileTree.ingestCluster, missing]
      rfl
    rw [refuses] at runs leaves
    exact ⟨after, runs, leaves⟩

end Workspace

/-! ## A cluster with a broken node -/

namespace BrokenNode

/-- A sound node and behind it one with a compressed file that is cut off. -/
def tree : FileTree where
  nodes := OneNode.tree.nodes ++ [
    (["cluster", "n2"], .directory), (["cluster", "n2", "logs"], .directory),
    (["cluster", "n2", "logs", "system.log.gz"], .file [31, 139])]

/-- What is stored of the sound node. -/
def document : Document :=
  ⟨"n1", "INFO", "A.java:1 - hello", "20200131093000"⟩

/-- The contents of the index after an earlier run on another cluster. -/
def oldStore : Store where
  documents := some [⟨"old", "WARN", "left behind", "20190101000000"⟩]
  ranges := some [⟨"n1", "20190101000000", "20190102000000"⟩]

/-- The files when the index is emptied. -/
def emptied : FileTree :=
  tree.set ["logs.db"] (.index { documents := some [] })

theorem tree_emptied : tree.emptied OneNode.index = .ok emptied :=
  rfl

theorem directoriesIn_root :
    emptied.directoriesIn OneNode.root =
      [⟨.root, ["cluster", "n1"]⟩, ⟨.root, ["cluster", "n2"]⟩] := by
  have place : emptied.locate OneNode.root = some ["cluster"] := rfl
  rw [FileTree.directoriesIn,
    FileTree.below_of_pairwise place (by decide +kernel)]
  decide +kernel

theorem clusterLogs_tree :
    let logs := tree.clusterLogs OneNode.index OneNode.root
    logs.items.flatMap (NodeLogs.documents {}) = [document] ∧
      logs.failure = some .truncatedFile := by
  rw [FileTree.clusterLogs, tree_emptied]
  dsimp only
  rw [directoriesIn_root]
  decide +kernel

end BrokenNode

theorem rebuild_forgets_brokenNode :
    ∃ after otherAfter,
      (Work.ingestCluster OneNode.index OneNode.root).run
          { tree := BrokenNode.tree } =
        (.error .truncatedFile, after) ∧
      (Work.ingestCluster OneNode.index OneNode.root).run
          { tree := BrokenNode.emptied.putStore OneNode.index
              BrokenNode.oldStore } =
        (.error .truncatedFile, otherAfter) ∧
      otherAfter.tree = after.tree ∧
      after.tree.documentsAt OneNode.index = [BrokenNode.document] ∧
      after.tree.loadRanges OneNode.index = .ok [] ∧
      after.IsFree OneNode.index := by
  have idle (tree : FileTree) :
      ({ tree } : Workspace).IsIdle OneNode.index {} :=
    ⟨_, _, rfl, rfl, rfl⟩
  rcases (@Workspace.rebuild_forgets _ _ OneNode.root _ _ _
    (idle BrokenNode.tree)
    (idle (BrokenNode.emptied.putStore OneNode.index BrokenNode.oldStore))
    .untouched (.stored BrokenNode.tree_emptied BrokenNode.oldStore)).1 rfl with
    ⟨result, after, otherAfter, runs, otherRuns, same, rebuilt, ends, opens⟩
  rcases BrokenNode.clusterLogs_tree with ⟨documents, failure⟩
  rcases opens BrokenNode.emptied BrokenNode.tree_emptied with
    ⟨noRanges, free, -⟩
  rw [failure] at ends
  cases ends
  exact ⟨after, otherAfter, runs, otherRuns, same,
    rebuilt.documents.trans documents, noRanges, free⟩

end ClusterLog
