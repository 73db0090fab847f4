import ClusterLog.Proofs.Ingest.Failures
import ClusterLog.Proofs.Tools.Ingestion
import ClusterLog.Proofs.Workspace.Rebuild

/-!
# Refused ingestions

The ingestion tool looks at all that it is given before it empties the index.
What fails later comes from the contents of files.  So where it refuses a value
or misses a file, the index is what it was.
-/

namespace ClusterLog

/-! ## Days and windows -/

theorem one_le_of_positive? {environment : Environment} {name : String}
    {value : Int} (holds : environment.positive? name = .ok (some value)) :
    1 ≤ value := by
  unfold Environment.positive? at holds
  split at holds
  · cases holds
  · split at holds
    · cases holds
    · split at holds
      · cases holds
      · split at holds
        · cases holds
        · cases holds
          omega

/-- A report covers one day at least. -/
theorem one_le_of_reportDays {daysAsked : Option Int}
    {environment : Environment} {days : Int}
    (asked : reportDays daysAsked environment = .ok days) : 1 ≤ days := by
  unfold reportDays at asked
  split at asked
  · split at asked
    · cases asked
    · cases asked
      omega
  · rcases bind_eq_ok.mp asked with ⟨value, holds, same⟩
    obtain rfl := pure_eq_ok.mp same
    cases value with
    | none => decide
    | some value => exact one_le_of_positive? holds

variable {ranges : LogRanges} {days : Int}

theorem failsByContents_lookback (range : DateRange) (days : Int) :
    FileTree.FailsByContents (fun _ => True) (range.lookback days) := by
  unfold DateRange.lookback
  split
  · trivial
  · exact rfl

theorem failsByContents_reportWindow (positive : 1 ≤ days) :
    FileTree.FailsByContents (fun _ => True) (reportWindow ranges days) := by
  rw [reportWindow, if_neg (by omega)]
  apply satisfies_mapM
  rintro ⟨host, range⟩ -
  have starts : FileTree.FailsByContents (fun _ => True)
      (range.windowStart days) :=
    (failsByContents_lookback range days).bind fun _ _ => trivial
  exact starts.bind fun _ _ => trivial

theorem failsByContents_truncatedHosts (ranges : LogRanges) (days : Int) :
    FileTree.FailsByContents (fun _ => True) (truncatedHosts ranges days) := by
  apply satisfies_mapM
  rintro ⟨host, range⟩ -
  have cuts : FileTree.FailsByContents (fun _ => True)
      (range.isTruncated days) :=
    (failsByContents_lookback range days).bind fun _ _ => trivial
  exact cuts.bind fun _ _ => trivial

/-! ## Failures of rebuilds -/

variable {before after : Workspace} {index root : Path} {config : IndexConfig}
variable {failure : Failure}

/-- The ingestion of a cluster that fails has changed nothing, or comes from the
contents of files. -/
theorem FileTree.ingestCluster_eq_error {tree left : FileTree}
    (sound : tree.IsSound)
    (fails : tree.ingestCluster index config root = (.error failure, left)) :
    left = tree ∨ failure.isAboutContents = true := by
  cases there : tree.isDirectory root with
  | false =>
      rw [ingestCluster, there] at fails
      cases fails
      exact Or.inl rfl
  | true =>
      cases empties : tree.emptied index with
      | error other =>
          rw [ingestCluster_of_error there empties] at fails
          cases fails
          exact Or.inl rfl
      | ok started =>
          rcases ingestCluster_eq config there empties with
            ⟨outcome, runs, ends⟩
          rw [runs] at fails
          cases fails
          right
          generalize stops : (tree.clusterLogs index root).failure = stopped
            at ends
          cases ends
          exact isAboutContents_of_clusterLogs sound empties stops

namespace Work

/-- A rebuild fails only if the ingestion of the cluster does. -/
theorem run_rebuildWithRanges_eq_error (sound : before.tree.IsSound)
    (fails : (rebuildWithRanges index config root).run before =
      (.error failure, after)) :
    after = before ∨ failure.isAboutContents = true := by
  rcases outcome : before.tree.ingestCluster index config root with
    ⟨stops | summaries, rebuilt⟩
  · have stopped : (rebuildWithRanges index config root).run before =
        (.error stops, { before with tree := rebuilt }) := by
      rw [rebuildWithRanges, run_bind, run_rebuild, outcome]
    rw [stopped] at fails
    cases fails
    rcases FileTree.ingestCluster_eq_error sound outcome with rfl | contents
    · exact Or.inl rfl
    · exact Or.inr contents
  · rcases FileTree.ingestCluster_eq_ok outcome with
      ⟨started, readings, store, rfl, sound, found, -⟩
    have returns := run_rebuildWithRanges outcome
      (NodeReading.logRangesFrom_eq sound [])
      (FileTree.saveRanges_of_find? found _)
    rw [returns] at fails
    cases fails

/-- The ingestion tool has changed nothing when it fails, or the failure comes
from the contents of files. -/
theorem run_ingestLogs_eq_error {artifacts indexText : String}
    {daysAsked : Option Int} (sound : before.tree.IsSound)
    (fails : (ingestLogs artifacts indexText daysAsked).run before =
      (.error failure, after)) :
    after = before ∨ failure.isAboutContents = true := by
  unfold ingestLogs at fails
  rcases run_bind_eq_error_of_unchanging (run_confined artifacts) fails with
    ⟨-, same⟩ | ⟨root, -, fails⟩
  · exact Or.inl same
  rcases run_bind_eq_error_of_unchanging (run_confined indexText) fails with
    ⟨-, same⟩ | ⟨index, -, fails⟩
  · exact Or.inl same
  rcases run_bind_eq_error_of_unchanging run_freshConfig fails with
    ⟨-, same⟩ | ⟨config, -, fails⟩
  · exact Or.inl same
  rcases run_bind_eq_error_of_unchanging run_days fails with
    ⟨-, same⟩ | ⟨days, asked, fails⟩
  · exact Or.inl same
  rcases run_bind_eq_error.mp fails with
    stops | ⟨⟨summaries, ranges⟩, rebuilt, rebuilds, fails⟩
  · exact run_rebuildWithRanges_eq_error sound stops
  right
  rcases exists_store_of_rebuildWithRanges rebuilds with ⟨store, stored, -⟩
  have covers : FileTree.FailsByContents (fun _ => True)
      (reportWindow ranges days) :=
    failsByContents_reportWindow (one_le_of_reportDays asked)
  have cuts := failsByContents_truncatedHosts ranges days
  rcases run_bind_eq_error_of_unchanging (run_lift _) fails with
    ⟨stops, -⟩ | ⟨window, -, fails⟩
  · rwa [stops] at covers
  rcases run_bind_eq_error_of_unchanging (run_lift _) fails with
    ⟨stops, -⟩ | ⟨truncated, -, fails⟩
  · rwa [stops] at cuts
  -- The index that was rebuilt can be counted.
  have counts := FileTree.documentCount_of_store? stored
  rw [run_bind_of_ok run_get,
    run_bind_of_unchanging (run_lift _) counts] at fails
  cases fails

end Work

/--
Where the ingestion tool refuses a value that it is given, or misses a file or a
directory, it has changed nothing: the index holds what it held.
-/
theorem ingestLogs_refused {before after : Workspace}
    {artifacts index : String} {daysAsked : Option Int} {failure : Failure}
    (sound : before.tree.IsSound)
    (fails : (Work.ingestLogs artifacts index daysAsked).run before =
      (.error failure, after))
    (kind : failure.isInvalidValue = true ∨ failure.isMissingFile = true) :
    after = before := by
  rcases Work.run_ingestLogs_eq_error sound fails with same | contents
  · exact same
  · rcases Failure.kinds_of_isAboutContents contents with ⟨valid, there⟩
    rcases kind with invalid | missing
    · rw [valid] at invalid
      cases invalid
    · rw [there] at missing
      cases missing

namespace BrokenNode

/-- A cluster, and the index that an earlier run on another one has left. -/
def workspace : Workspace where
  tree := emptied.putStore OneNode.index oldStore

end BrokenNode

/-- An index is what it was where no day is asked for, and where there are no
artifacts. -/
theorem ingestLogs_refused_brokenNode :
    BrokenNode.workspace.tree.find? OneNode.index =
        some (.index BrokenNode.oldStore) ∧
      (∃ after,
        (Work.ingestLogs "/cluster" "logs.db" (some 0)).run
            BrokenNode.workspace =
          (.error .daysTooSmall, after) ∧
        after = BrokenNode.workspace) ∧
      ∃ after,
        (Work.ingestLogs "/absent" "logs.db" none).run BrokenNode.workspace =
          (.error (.artifactsNotFound "/absent"), after) ∧
        after = BrokenNode.workspace := by
  have sound : BrokenNode.workspace.tree.IsSound := by decide +kernel
  have refused :
      (Work.ingestLogs "/cluster" "logs.db" (some 0)).run
          BrokenNode.workspace =
        (.error .daysTooSmall, BrokenNode.workspace) := rfl
  have absent :
      (Work.ingestLogs "/absent" "logs.db" none).run BrokenNode.workspace =
        (.error (.artifactsNotFound "/absent"), BrokenNode.workspace) := rfl
  exact ⟨rfl, ⟨_, refused, ingestLogs_refused sound refused (Or.inl rfl)⟩,
    ⟨_, absent, ingestLogs_refused sound absent (Or.inr rfl)⟩⟩

end ClusterLog
