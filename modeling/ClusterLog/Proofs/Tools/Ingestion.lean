import ClusterLog.Proofs.Files.Location
import ClusterLog.Proofs.Ingest.Accounting
import ClusterLog.Proofs.Ingest.SavedRanges
import ClusterLog.Proofs.Tools.Search
import ClusterLog.Proofs.Window

/-!
# Windows of the ingestion tool

The ingestion tool reports from when on each host is shown.  The ranges that it
saves are loaded again as they were, so a later search of the index for the
same number of days goes through the same windows.
-/

namespace ClusterLog

namespace Work

variable {before after : Workspace}
variable {index root : Path} {config : IndexConfig}
variable {summaries : List NodeSummary} {ranges : LogRanges}

theorem run_rebuildWithRanges_eq_ok
    (returns : (rebuildWithRanges index config root).run before =
      (.ok (summaries, ranges), after)) :
    ∃ rebuilt saved,
      before.tree.ingestCluster index config root = (.ok summaries, rebuilt) ∧
      logRanges summaries = .ok ranges ∧
      rebuilt.saveRanges index ranges = .ok saved ∧
      after = { before with tree := saved } := by
  unfold rebuildWithRanges at returns
  rcases run_bind_eq_ok.mp returns with ⟨found, between, rebuilds, goesOn⟩
  rw [run_rebuild] at rebuilds
  rcases outcome : before.tree.ingestCluster index config root with
    ⟨result, rebuilt⟩
  rw [outcome] at rebuilds
  cases rebuilds
  rcases run_bind_eq_ok_of_unchanging (run_lift _) goesOn with
    ⟨covered, ranged, saves⟩
  rw [run_bind_of_ok run_get] at saves
  rcases run_bind_eq_ok_of_unchanging (run_lift _) saves with
    ⟨saved, puts, ends⟩
  rw [run_bind_of_ok (run_setTree saved)] at ends
  cases ends
  exact ⟨rebuilt, saved, rfl, ranged, puts, rfl⟩

/-- An index is rebuilt if its cluster can be ingested. -/
theorem run_rebuildWithRanges {rebuilt saved : FileTree}
    (ingests :
      before.tree.ingestCluster index config root = (.ok summaries, rebuilt))
    (ranged : logRanges summaries = .ok ranges)
    (puts : rebuilt.saveRanges index ranges = .ok saved) :
    (rebuildWithRanges index config root).run before =
      (.ok (summaries, ranges), { before with tree := saved }) := by
  have rebuilds : (rebuild index config root).run before =
      (.ok summaries, { before with tree := rebuilt }) := by
    rw [run_rebuild, ingests]
  rw [rebuildWithRanges, run_bind_of_ok rebuilds,
    run_bind_of_unchanging (run_lift _) ranged,
    run_bind_of_ok run_get,
    run_bind_of_unchanging (run_lift _) puts,
    run_bind_of_ok (run_setTree saved), run_pure]

/-- A cluster whose ingestion returns is indexed with its ranges. -/
theorem exists_run_rebuildWithRanges {rebuilt : FileTree}
    (ingests :
      before.tree.ingestCluster index config root = (.ok summaries, rebuilt))
    (ranged : logRanges summaries = .ok ranges) :
    ∃ after,
      (rebuildWithRanges index config root).run before =
        (.ok (summaries, ranges), after) := by
  rcases FileTree.ingestCluster_eq_ok ingests with
    ⟨-, -, store, -, -, found, -, -⟩
  exact ⟨_, run_rebuildWithRanges ingests ranged
    (FileTree.saveRanges_of_find? found ranges)⟩

/-- A rebuilt index holds the ranges that follow from its summaries. -/
theorem exists_store_of_rebuildWithRanges
    (returns : (rebuildWithRanges index config root).run before =
      (.ok (summaries, ranges), after)) :
    ∃ store,
      after.tree.store? index = .ok (some store) ∧
      store.loadRanges = .ok ranges ∧
      ranges.AreModern := by
  rcases run_rebuildWithRanges_eq_ok returns with
    ⟨rebuilt, saved, ingests, ranged, puts, rfl⟩
  rcases FileTree.ingestCluster_eq_ok ingests with
    ⟨started, readings, store, rfl, sound, found, -, -⟩
  have follows : logRanges (readings.map NodeReading.summary) =
      .ok (readings.foldl (NodeReading.extendRanges config) []) :=
    NodeReading.logRangesFrom_eq sound []
  obtain rfl := Except.ok.inj (follows.symm.trans ranged)
  have none : LogRanges.AreModern [] := nofun
  have modern := NodeReading.foldl_areModern sound none
  rw [FileTree.saveRanges_of_find? found] at puts
  cases puts
  exact ⟨_, FileTree.store?_of_find?
      (FileTree.find?_putStore_of_find? found _),
    store.loadRanges_saveRanges modern, modern⟩

/-- A rebuilt index leaves the rest of the workspace where it was. -/
theorem surroundings_of_rebuildWithRanges
    (returns : (rebuildWithRanges index config root).run before =
      (.ok (summaries, ranges), after)) :
    after.environment = before.environment ∧
      after.accounts = before.accounts ∧
      after.tree.current = before.tree.current := by
  rcases run_rebuildWithRanges_eq_ok returns with
    ⟨rebuilt, saved, ingests, -, puts, rfl⟩
  rcases FileTree.ingestCluster_eq_ok ingests with
    ⟨-, -, store, -, -, found, -, current⟩
  rw [FileTree.saveRanges_of_find? found] at puts
  cases puts
  exact ⟨rfl, rfl, (FileTree.current_putStore _ _).trans current⟩

/-- What the ingestion tool has done if it returns. -/
theorem run_ingestLogs_eq_ok {artifacts indexText : String}
    {daysAsked : Option Int} {report : IngestionReport}
    (returns : (ingestLogs artifacts indexText daysAsked).run before =
      (.ok report, after)) :
    ∃ root config summaries ranges window truncated,
      confine before.environment before.accounts before.tree.current indexText =
        .ok report.index ∧
      IndexConfig.resolve {} before.environment = .ok config ∧
      reportDays daysAsked before.environment = .ok report.days ∧
      (rebuildWithRanges report.index config root).run before =
        (.ok (summaries, ranges), after) ∧
      reportWindow ranges report.days = .ok window ∧
      truncatedHosts ranges report.days = .ok truncated ∧
      report.nodes = summaries.map fun summary =>
        { summary
          windowStart := (window.lookup summary.host).map (·.stamp)
          isTruncated := (truncated.lookup summary.host).getD false } := by
  unfold ingestLogs at returns
  rcases run_bind_eq_ok_of_unchanging (run_confined artifacts) returns with
    ⟨root, -, goesOn⟩
  rcases run_bind_eq_ok_of_unchanging (run_confined indexText) goesOn with
    ⟨index, confines, goesOn⟩
  rcases run_bind_eq_ok_of_unchanging run_freshConfig goesOn with
    ⟨config, resolves, goesOn⟩
  rcases run_bind_eq_ok_of_unchanging run_days goesOn with
    ⟨days, asked, goesOn⟩
  rcases run_bind_eq_ok.mp goesOn with
    ⟨⟨summaries, ranges⟩, rebuilt, rebuilds, reports⟩
  rcases run_bind_eq_ok_of_unchanging (run_lift _) reports with
    ⟨window, covers, reports⟩
  rcases run_bind_eq_ok_of_unchanging (run_lift _) reports with
    ⟨truncated, cuts, reports⟩
  rw [run_bind_of_ok run_get] at reports
  rcases run_bind_eq_ok_of_unchanging (run_lift _) reports with
    ⟨documents, -, ends⟩
  cases ends
  exact ⟨root, config, summaries, ranges, window, truncated, confines, resolves,
    asked, rebuilds, covers, cuts, rfl⟩

/-- The answer of the ingestion tool, step by step. -/
theorem run_ingestLogs {artifacts indexText : String} {daysAsked : Option Int}
    {days : Int} {window : ReportWindow} {truncated : List (String × Bool)}
    {documents : Nat}
    (confinesRoot :
      confine before.environment before.accounts before.tree.current artifacts =
        .ok root)
    (confinesIndex :
      confine before.environment before.accounts before.tree.current indexText =
        .ok index)
    (resolves : IndexConfig.resolve {} before.environment = .ok config)
    (asked : reportDays daysAsked before.environment = .ok days)
    (rebuilds : (rebuildWithRanges index config root).run before =
      (.ok (summaries, ranges), after))
    (covers : reportWindow ranges days = .ok window)
    (cuts : truncatedHosts ranges days = .ok truncated)
    (counts : after.tree.documentCount index = .ok documents) :
    (ingestLogs artifacts indexText daysAsked).run before =
      (.ok {
        index, documents, days
        nodes := summaries.map fun summary =>
          { summary
            windowStart := (window.lookup summary.host).map (·.stamp)
            isTruncated := (truncated.lookup summary.host).getD false } },
        after) := by
  rw [ingestLogs,
    run_bind_of_unchanging (run_confined artifacts) confinesRoot,
    run_bind_of_unchanging (run_confined indexText) confinesIndex,
    run_bind_of_unchanging run_freshConfig resolves,
    run_bind_of_unchanging run_days asked,
    run_bind_of_ok rebuilds]
  dsimp only
  rw [run_bind_of_unchanging (run_lift _) covers,
    run_bind_of_unchanging (run_lift _) cuts,
    run_bind_of_ok run_get,
    run_bind_of_unchanging (run_lift _) counts, run_pure]

end Work

/-! ## Later searches -/

/-- In a later workspace the same index is asked for the same number of days. -/
structure Workspace.SearchesAgain (later : Workspace) (text : String)
    (daysAsked : Option Int) (report : IngestionReport) (store : Store) :
    Prop where
  index : confine later.environment later.accounts later.tree.current text =
    .ok report.index
  unchanged : later.tree.store? report.index = .ok (some store)
  settings : ∃ config, IndexConfig.resolve {} later.environment = .ok config
  days : reportDays daysAsked later.environment = .ok report.days

/--
Right after an ingestion its index can be searched for the same number of days.
Every later search that asks for this goes through one window.  Its cutoff for
a host is the date that the report of the host's node names; where the report
names none there is none.  A log is reported as cut exactly if the cutoff is
the asked number of days before the end of the host's saved range.
-/
theorem ingestLogs_window {before after : Workspace}
    {artifacts index : String} {daysAsked : Option Int}
    {report : IngestionReport}
    (returns : (Work.ingestLogs artifacts index daysAsked).run before =
      (.ok report, after)) :
    ∃ store ranges window,
      after.tree.store? report.index = .ok (some store) ∧
      store.loadRanges = .ok ranges ∧
      after.SearchesAgain index daysAsked report store ∧
      (∀ later text daysLater,
        Workspace.SearchesAgain later text daysLater report store →
        later.Shows text daysLater store window ∧
        ∀ search, (Work.searchEntries text daysLater search).run later =
          (store.search window search, later)) ∧
      ∀ node ∈ report.nodes,
        (∀ text, node.windowStart = some text →
          ∃ cutoff, parseTimestamp text = .ok cutoff ∧
            window.lookup node.summary.host = some cutoff) ∧
        (node.windowStart = none →
          window.lookup node.summary.host = none) ∧
        (node.isTruncated = true ↔
          ∃ range cutoff,
            ranges.lookup node.summary.host = some range ∧
            range.last.minusDays? report.days = some cutoff ∧
            window.lookup node.summary.host = some cutoff) := by
  rcases Work.run_ingestLogs_eq_ok returns with
    ⟨root, config, summaries, ranges, window, truncated, confines, resolves,
      asked, rebuilds, covers, cuts, nodes⟩
  rcases Work.exists_store_of_rebuildWithRanges rebuilds with
    ⟨store, stored, loads, modern⟩
  rcases Work.surroundings_of_rebuildWithRanges rebuilds with
    ⟨environment, accounts, current⟩
  refine ⟨store, ranges, window, stored, loads, ?_, ?_, ?_⟩
  · constructor
    case index => rw [environment, accounts, current, confines]
    case unchanged => exact stored
    case settings => exact ⟨config, by rw [environment, resolves]⟩
    case days => rw [environment, asked]
  · intro later text daysLater again
    have showing : later.Shows text daysLater store window := {
      found := ⟨report.index, again.index, again.unchanged⟩
      settings := again.settings
      covers := ⟨ranges, report.days, loads, again.days, covers⟩ }
    exact ⟨showing, Work.run_searchEntries_eq showing⟩
  · intro node member
    rw [nodes] at member
    rcases List.mem_map.mp member with ⟨summary, -, rfl⟩
    refine ⟨?_, ?_, isTruncated_iff covers cuts⟩
    · intro text written
      rcases Option.map_eq_some_iff.mp written with ⟨cutoff, starts, rfl⟩
      refine ⟨cutoff, ?_, starts⟩
      rcases (lookup_reportWindow covers).mp starts with
        ⟨range, -, known, -, rfl⟩
      rcases List.lookup_eq_some_iff.mp known with ⟨prior, behind, parts, -⟩
      have inside : (summary.host, range) ∈ ranges := by simp [parts]
      -- The window starts no earlier than the log.
      have start := (modern _ inside).first
      exact Calendar.DateTime.parseTimestamp_stamp
        (start.mono (DateTime.le_later _ _))
    · intro silent
      exact Option.map_eq_none_iff.mp silent

/-! ## A workspace with one node -/

namespace OneNode

def workspace : Workspace where
  tree := tree

theorem confines_root : confine [] [] [] "/cluster" = .ok root :=
  eq_ok_of_toOption (by decide +kernel)

theorem confines_index : confine [] [] [] "logs.db" = .ok index :=
  eq_ok_of_toOption (by decide +kernel)

theorem rebuilds :
    ∃ summary after,
      (Work.rebuildWithRanges index {} root).run workspace =
        (.ok ([summary], [("n1", ⟨time, time⟩)]), after) ∧
      summary.host = "n1" := by
  rcases returns with ⟨summary, rebuilt, ingests, host, ranged⟩
  have rebuilds : ∃ after,
      (Work.rebuildWithRanges index {} root).run workspace = (.ok _, after) :=
    Work.exists_run_rebuildWithRanges ingests ranged
  rcases rebuilds with ⟨after, rebuilds⟩
  exact ⟨summary, after, rebuilds, host⟩

end OneNode

/-! ## A workspace with two nodes of one host -/

namespace SharedHost

def workspace : Workspace where
  tree := tree

/-- Seven days before the newer record. -/
def cutoff : Calendar.DateTime :=
  { range.last with date := ⟨2020, 1, 24, by decide⟩ }

/-- What a report says about a node. -/
def view (node : NodeReport) : String × Option String × Bool :=
  (node.summary.host, node.windowStart, node.isTruncated)

/-- The log of both nodes goes back more than seven days, and the other node has
none. -/
theorem reports :
    ∃ report after,
      (Work.ingestLogs "/cluster" "logs.db" (some 7)).run workspace =
        (.ok report, after) ∧
      report.nodes.map view =
        [("n1", some "20200124093000", true), ("n1", some "20200124093000", true),
          ("n2", none, false)] := by
  rcases returns with ⟨summaries, rebuilt, ingests, written, ranged⟩
  have rebuilds : ∃ after,
      (Work.rebuildWithRanges OneNode.index {} OneNode.root).run workspace =
        (.ok _, after) :=
    Work.exists_run_rebuildWithRanges ingests ranged
  rcases rebuilds with ⟨after, rebuilds⟩
  rcases Work.exists_store_of_rebuildWithRanges rebuilds with ⟨store, stored, -⟩
  have covers : reportWindow [("n1", range)] 7 = .ok [("n1", cutoff)] :=
    eq_ok_of_toOption (by decide +kernel)
  have cuts : truncatedHosts [("n1", range)] 7 = .ok [("n1", true)] :=
    eq_ok_of_toOption (by decide +kernel)
  have counts := FileTree.documentCount_of_store? stored
  have hosts : summaries.map (·.host) = ["n1", "n1", "n2"] := by
    have first := congrArg (List.map Prod.fst) written
    rw [SharedHost.written, List.map_map] at first
    exact first
  refine ⟨_, _, Work.run_ingestLogs OneNode.confines_root OneNode.confines_index
    rfl rfl rebuilds covers cuts counts, ?_⟩
  have seen : (summaries.map fun summary => view {
        summary
        windowStart := ([("n1", cutoff)].lookup summary.host).map (·.stamp)
        isTruncated := ([("n1", true)].lookup summary.host).getD false }) =
      (summaries.map (·.host)).map fun host =>
        (host, ([("n1", cutoff)].lookup host).map (·.stamp),
          ([("n1", true)].lookup host).getD false) := by
    rw [List.map_map]
    rfl
  rw [List.map_map]
  refine seen.trans ?_
  rw [hosts]
  decide +kernel

end SharedHost

/-- The report and a search right after the ingestion agree, both for a host whose
log is cut and for one without a log. -/
theorem ingestLogs_window_sharedHost :
    ∃ report after store window,
      (Work.ingestLogs "/cluster" "logs.db" (some 7)).run SharedHost.workspace =
        (.ok report, after) ∧
      report.nodes.map SharedHost.view =
        [("n1", some "20200124093000", true), ("n1", some "20200124093000", true),
          ("n2", none, false)] ∧
      after.Shows "logs.db" (some 7) store window ∧
      window.lookup "n1" = some SharedHost.cutoff ∧
      window.lookup "n2" = none := by
  rcases SharedHost.reports with ⟨report, after, returns, nodes⟩
  rcases ingestLogs_window returns with
    ⟨store, ranges, window, -, -, again, later, agree⟩
  refine ⟨report, after, store, window, returns, nodes,
    (later _ _ _ again).1, ?_, ?_⟩
  · have cut : ("n1", some "20200124093000", true) ∈
        report.nodes.map SharedHost.view := by
      rw [nodes]
      exact List.mem_cons_self
    rcases List.mem_map.mp cut with ⟨node, member, same⟩
    simp only [SharedHost.view, Prod.mk.injEq] at same
    rcases same with ⟨host, starts, -⟩
    rcases (agree node member).1 _ starts with ⟨cutoff, reads, cutoffOf⟩
    have known : parseTimestamp "20200124093000" = .ok SharedHost.cutoff :=
      eq_ok_of_toOption (by decide +kernel)
    rw [reads, Except.ok.injEq] at known
    rw [host, known] at cutoffOf
    exact cutoffOf
  · have silent : ("n2", none, false) ∈ report.nodes.map SharedHost.view := by
      rw [nodes]
      simp
    rcases List.mem_map.mp silent with ⟨node, member, same⟩
    simp only [SharedHost.view, Prod.mk.injEq] at same
    rcases same with ⟨host, unknown, -⟩
    rw [← host]
    exact (agree node member).2.1 unknown

end ClusterLog
