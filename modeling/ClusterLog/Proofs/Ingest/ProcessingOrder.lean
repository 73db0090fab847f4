import ClusterLog.Proofs.Ingest.Brackets
import Mathlib.Data.List.Perm.Basic

/-!
# The order of processing

The files of a node may be processed in any order.  Where no two of them have
the same fingerprint, none is skipped, and each is one write of its entries,
whose documents and statistics follow from the entries alone.  The dates of a
node are extremes over its files and the ranges of a cluster are extremes over
its nodes, and the choice of an extreme is commutative and associative.
-/

namespace ClusterLog

open Calendar

/-! ## Extremes -/

/-- The extreme date of a list is a fold over optional dates. -/
theorem extremeDate_eq_foldl (choose : DateTime → DateTime → DateTime)
    (dates : List DateTime) :
    extremeDate choose dates =
      (dates.map some).foldl (Option.merge choose) none := by
  have fold : ∀ (others : List DateTime) (first : DateTime),
      (others.map some).foldl (Option.merge choose) (some first) =
        some (others.foldl choose first) := by
    intro others
    induction others with
    | nil => exact fun _ => rfl
    | cons second others ih => exact fun first => ih (choose first second)
  cases dates with
  | nil => rfl
  | cons first others => exact (fold others first).symm

theorem extremeDate_perm {choose : DateTime → DateTime → DateTime}
    [Std.Commutative choose] [Std.Associative choose]
    {dates others : List DateTime} (same : dates.Perm others) :
    extremeDate choose dates = extremeDate choose others := by
  rw [extremeDate_eq_foldl, extremeDate_eq_foldl]
  exact (same.map some).foldl_op_eq

instance : Std.Commutative DateRange.cover where
  comm left right := by
    have firsts : left.first.earlier right.first =
        right.first.earlier left.first := Std.Commutative.comm _ _
    have lasts : left.last.later right.last = right.last.later left.last :=
      Std.Commutative.comm _ _
    rw [DateRange.cover, DateRange.cover, firsts, lasts]

instance : Std.Associative DateRange.cover where
  assoc left middle right := by
    have firsts : (left.first.earlier middle.first).earlier right.first =
        left.first.earlier (middle.first.earlier right.first) :=
      Std.Associative.assoc _ _ _
    have lasts : (left.last.later middle.last).later right.last =
        left.last.later (middle.last.later right.last) :=
      Std.Associative.assoc _ _ _
    simp only [DateRange.cover, firsts, lasts]

/-! ## Files -/

namespace FileTree

variable {tree : FileTree} {paths others : List Path}

/-- The files can be read, and no two of them have the same fingerprint. -/
structure HasDistinctPrints (tree : FileTree) (paths : List Path) : Prop where
  readable : ∀ path ∈ paths, ∃ print,
    tree.fingerprint path fingerprintLines = .ok print
  distinct : paths.Pairwise fun path other =>
    tree.fingerprint path fingerprintLines ≠
      tree.fingerprint other fingerprintLines

theorem HasDistinctPrints.perm (distinct : tree.HasDistinctPrints paths)
    (same : paths.Perm others) : tree.HasDistinctPrints others where
  readable path member := distinct.readable path (same.mem_iff.mpr member)
  distinct := (same.pairwise_iff Ne.symm).mp distinct.distinct

/-- What is read of a file on its own. -/
def readingOf (tree : FileTree) (grammar : Layout.Grammar) (path : Path) :
    FileReading where
  path
  entries := (tree.entries path grammar).toOption.getD []

/-- Of files that have fingerprints of their own none is skipped. -/
theorem collectFiles_of_distinct (grammar : Layout.Grammar)
    {seen : List String} (distinct : tree.HasDistinctPrints paths)
    (unseen : ∀ path ∈ paths, ∀ print ∈ seen,
      tree.fingerprint path fingerprintLines ≠ .ok print) :
    tree.collectFiles grammar seen paths =
      { items := paths.map (tree.readingOf grammar) } := by
  induction paths generalizing seen with
  | nil => rfl
  | cons path paths ih =>
      rcases distinct.readable path List.mem_cons_self with ⟨print, prints⟩
      rcases fingerprint_eq_ok.mp prints with ⟨lines, reads, -⟩
      have apart := List.pairwise_cons.mp distinct.distinct
      have fresh : seen.contains print = false := by
        rw [Bool.eq_false_iff]
        intro known
        exact unseen path List.mem_cons_self print
          (List.contains_iff_mem.mp known) prints
      have distinctOthers : tree.HasDistinctPrints paths :=
        ⟨fun other member => distinct.readable other
          (List.mem_cons_of_mem _ member), apart.2⟩
      have unseenOthers : ∀ other ∈ paths, ∀ old ∈ print :: seen,
          tree.fingerprint other fingerprintLines ≠ .ok old := by
        intro other member old inside
        rcases List.mem_cons.mp inside with rfl | before
        · rw [← prints]
          exact (apart.1 other member).symm
        · exact unseen other (List.mem_cons_of_mem _ member) old before
      have others := ih distinctOthers unseenOthers
      rw [collectFiles, prints]
      simp only [fresh, entries_of_lines reads, others]
      rw [List.map_cons, readingOf, entries_of_lines reads]
      rfl

end FileTree

/-! ## Nodes -/

namespace Ingestion

/--
Processing the log files of a node one after the other returns with their
statistics and adds documents to those of the index, all of which are stored
then.
-/
def Processes (tree : FileTree) (grammar : Layout.Grammar) (host : String)
    (before : Writing) (paths : List Path)
    (files : List (String × WriteStatistics)) (documents : List Document) :
    Prop :=
  ∃ progress after,
    (ingestFiles tree grammar host {} paths).run before =
      (.ok progress, after) ∧
    progress.files = files ∧
    after.held = before.held ++ documents ∧
    (paths ≠ [] → after.pending = [])

/-- Each file is one write of its entries, whose statistics and documents do not
depend on the other files. -/
theorem processes_of_distinct {tree : FileTree} {paths : List Path}
    (grammar : Layout.Grammar) (host : String) (before : Writing)
    (distinct : tree.HasDistinctPrints paths) :
    Processes tree grammar host before paths
      (paths.map fun path =>
        (tree.readingOf grammar path).report before.config host)
      (paths.flatMap fun path =>
        before.config.documentsOf host (tree.readingOf grammar path).entries) := by
  have collected : tree.collectFiles grammar [] paths =
      { items := paths.map (tree.readingOf grammar) } :=
    FileTree.collectFiles_of_distinct grammar distinct (by simp)
  rcases run_ingestFiles tree before grammar host {} paths with
    ⟨outcome, runs, ends⟩
  rw [collected] at runs ends
  cases ends with
  | returns reported =>
      refine ⟨_, _, runs, ?_, ?_, ?_⟩
      · rw [reported, List.map_map]
        rfl
      · rw [Writing.held_runAll, WriterCall.accepted, List.flatMap_map,
          List.flatMap_map]
        rfl
      · intro nonempty
        rcases List.eq_nil_or_concat paths with rfl | ⟨front, last, rfl⟩
        · exact absurd rfl nonempty
        · rw [WriterCall.runAll, List.map_map, List.concat_eq_append,
            List.map_append, List.foldl_append]
          rfl

end Ingestion

namespace NodeSummary

/-- An extreme one of the dates that files have; none of no dates. -/
def extremeOf (choose : DateTime → DateTime → DateTime)
    (date : WriteStatistics → Except Failure (Option DateTime))
    (files : List (String × WriteStatistics)) :
    Except Failure (Option DateTime) := do
  let dates ← files.mapM fun file => date file.2
  return extremeDate choose (dates.filterMap id)

/-- The order of files does not matter for an extreme date of theirs. -/
theorem extremeOf_perm (choose : DateTime → DateTime → DateTime)
    [Std.Commutative choose] [Std.Associative choose]
    {date : WriteStatistics → Except Failure (Option DateTime)}
    {files others : List (String × WriteStatistics)}
    (reads : ∀ file ∈ files, ∃ found, date file.2 = .ok found)
    (same : files.Perm others) :
    extremeOf choose date files = extremeOf choose date others := by
  have found : ∀ file ∈ files,
      date file.2 = .ok (date file.2).toOption.join := by
    intro file member
    rcases reads file member with ⟨found, read⟩
    rw [read]
    rfl
  have foundToo : ∀ file ∈ others,
      date file.2 = .ok (date file.2).toOption.join :=
    fun file member => found file (same.mem_iff.mpr member)
  rw [extremeOf, extremeOf, mapM_eq_ok_of_forall found,
    mapM_eq_ok_of_forall foundToo]
  have perm := (same.map fun file => (date file.2).toOption.join).filterMap id
  exact congrArg Except.ok (extremeDate_perm perm)

/-- The files of a summary are those of writes. -/
def IsWritten (summary : NodeSummary) : Prop :=
  ∀ file ∈ summary.files, ∃ config host entries,
    file.2 = IndexConfig.statisticsOf config host entries

variable {summary other : NodeSummary}

theorem minDate_perm (written : summary.IsWritten)
    (same : summary.files.Perm other.files) :
    summary.minDate = other.minDate := by
  refine extremeOf_perm DateTime.earlier (fun file member => ?_) same
  rcases written file member with ⟨config, host, entries, stands⟩
  rw [stands]
  exact ⟨_, IndexConfig.minDate_statisticsOf⟩

theorem maxDate_perm (written : summary.IsWritten)
    (same : summary.files.Perm other.files) :
    summary.maxDate = other.maxDate := by
  refine extremeOf_perm DateTime.later (fun file member => ?_) same
  rcases written file member with ⟨config, host, entries, stands⟩
  rw [stands]
  exact ⟨_, IndexConfig.maxDate_statisticsOf⟩

end NodeSummary

/-! ## Clusters -/

/-- The smallest range that covers some ranges and a known one, if there is
any. -/
def coverFrom (known : Option DateRange) (ranges : List DateRange) :
    Option DateRange :=
  (ranges.map some).foldl (Option.merge DateRange.cover) known

theorem coverFrom_cons (known : Option DateRange) (range : DateRange)
    (ranges : List DateRange) :
    coverFrom known (range :: ranges) =
      coverFrom (some ((known.map range.cover).getD range)) ranges := by
  have joined : Option.merge DateRange.cover known (some range) =
      some ((known.map range.cover).getD range) := by
    cases known with
    | none => rfl
    | some known =>
        have same : known.cover range = range.cover known :=
          Std.Commutative.comm _ _
        exact congrArg some same
  rw [coverFrom, List.map_cons, List.foldl_cons, joined]
  rfl

theorem coverFrom_perm (known : Option DateRange)
    {ranges others : List DateRange} (same : ranges.Perm others) :
    coverFrom known ranges = coverFrom known others :=
  (same.map some).foldl_op_eq

/-- The range of a node of a host, if it has one. -/
def NodeSummary.rangeAt? (host : String) (summary : NodeSummary) :
    Option DateRange :=
  if summary.host = host then summary.range?.toOption.join else none

/-- If the ranges of all nodes are defined, those of a cluster are, and each
covers the ranges of the nodes of its host. -/
theorem logRangesFrom_of_defined {summaries : List NodeSummary}
    (defined : ∀ summary ∈ summaries, ∃ range, summary.range? = .ok range)
    (ranges : LogRanges) :
    ∃ result,
      logRangesFrom ranges summaries = .ok result ∧
      ∀ host, result.lookup host = coverFrom (ranges.lookup host)
        (summaries.filterMap (NodeSummary.rangeAt? host)) := by
  -- Each node with a range joins it to that of its host so far.
  induction summaries generalizing ranges with
  | nil => exact ⟨ranges, rfl, fun _ => rfl⟩
  | cons summary summaries ih =>
      have others := ih fun other member =>
        defined other (List.mem_cons_of_mem _ member)
      rcases defined summary List.mem_cons_self with ⟨range, here⟩
      cases range with
      | none =>
          rcases others ranges with ⟨result, runs, covers⟩
          refine ⟨result, ?_, fun host => ?_⟩
          · rw [logRangesFrom, here]
            exact runs
          · have absent : summary.rangeAt? host = none := by
              simp [NodeSummary.rangeAt?, here, Except.toOption]
            rw [covers host, List.filterMap_cons_none absent]
      | some range =>
          rcases others (LogRanges.extend ranges summary.host range) with
            ⟨result, runs, covers⟩
          refine ⟨result, ?_, fun host => ?_⟩
          · rw [logRangesFrom, here]
            exact runs
          · rw [covers host, LogRanges.lookup_extend]
            by_cases same : summary.host = host
            · have present : summary.rangeAt? host = some range := by
                simp [NodeSummary.rangeAt?, here, same, Except.toOption]
              rw [List.filterMap_cons_some present, coverFrom_cons, same,
                if_pos rfl]
            · have absent : summary.rangeAt? host = none := by
                simp [NodeSummary.rangeAt?, same]
              rw [List.filterMap_cons_none absent, if_neg (Ne.symm same)]

/-- If the range of a node is not defined, those of a cluster are not. -/
theorem logRangesFrom_of_undefined {summaries : List NodeSummary}
    {summary : NodeSummary} (member : summary ∈ summaries) {failure : Failure}
    (fails : summary.range? = .error failure) (ranges : LogRanges) :
    ∃ other, logRangesFrom ranges summaries = .error other := by
  induction summaries generalizing ranges with
  | nil => cases member
  | cons first summaries ih =>
      cases here : first.range? with
      | error other =>
          refine ⟨other, ?_⟩
          rw [logRangesFrom, here]
          rfl
      | ok range =>
          have behind : summary ∈ summaries := by
            rcases List.mem_cons.mp member with rfl | behind
            · rw [fails] at here
              cases here
            · exact behind
          rw [logRangesFrom, here]
          cases range with
          | none => exact ih behind ranges
          | some range => exact ih behind _

/-- Both are the same map of hosts to ranges, or neither is defined. -/
def SameRanges : Except Failure LogRanges → Except Failure LogRanges → Prop
  | .ok ranges, .ok others => ∀ host, ranges.lookup host = others.lookup host
  | .error _, .error _ => True
  | _, _ => False

theorem sameRanges_logRanges {summaries others : List NodeSummary}
    (same : summaries.Perm others) :
    SameRanges (logRanges summaries) (logRanges others) := by
  by_cases fails : ∃ summary ∈ summaries, ∃ failure,
      summary.range? = .error failure
  · rcases fails with ⟨summary, member, failure, fails⟩
    rcases logRangesFrom_of_undefined member fails [] with ⟨first, stops⟩
    rcases logRangesFrom_of_undefined (same.mem_iff.mp member) fails [] with
      ⟨second, stopsToo⟩
    rw [logRanges, logRanges, stops, stopsToo]
    trivial
  · have defined : ∀ summary ∈ summaries, ∃ range,
        summary.range? = .ok range := by
      intro summary member
      cases here : summary.range? with
      | ok range => exact ⟨range, rfl⟩
      | error failure => exact absurd ⟨summary, member, failure, here⟩ fails
    have definedToo : ∀ summary ∈ others, ∃ range,
        summary.range? = .ok range :=
      fun summary member => defined summary (same.mem_iff.mpr member)
    rcases logRangesFrom_of_defined defined [] with ⟨ranges, runs, covers⟩
    rcases logRangesFrom_of_defined definedToo [] with
      ⟨otherRanges, runsToo, coversToo⟩
    rw [logRanges, logRanges, runs, runsToo]
    intro host
    rw [covers host, coversToo host]
    exact coverFrom_perm _ (same.filterMap _)

/-! ## Any order -/

/--
In two orders, and whatever the writers store at a time and hold back before,
the files of a node with fingerprints of their own give the same documents, the
same statistics of each file and the same dates of the node.  The ranges of a
cluster do not depend on the order of its nodes.
-/
theorem processing_order_irrelevant :
    (∀ (tree : FileTree) (grammar : Layout.Grammar) (host : String)
        (paths others : List Path) (before beforeToo : Writing),
      paths.Perm others → tree.HasDistinctPrints paths →
      before.config.noiseMarkers = beforeToo.config.noiseMarkers →
      ∃ files filesToo documents documentsToo,
        Ingestion.Processes tree grammar host before paths files documents ∧
        Ingestion.Processes tree grammar host beforeToo others filesToo
          documentsToo ∧
        documents.Perm documentsToo ∧
        files.Perm filesToo ∧
        ∀ summary summaryToo : NodeSummary,
          summary.files = files → summaryToo.files = filesToo →
          summary.minDate = summaryToo.minDate ∧
          summary.maxDate = summaryToo.maxDate) ∧
    ∀ summaries others : List NodeSummary, summaries.Perm others →
      SameRanges (logRanges summaries) (logRanges others) := by
  refine ⟨?_, fun _ _ => sameRanges_logRanges⟩
  intro tree grammar host paths others before beforeToo same distinct markers
  have processes := Ingestion.processes_of_distinct grammar host before distinct
  have processesToo := Ingestion.processes_of_distinct grammar host beforeToo
    (distinct.perm same)
  have reports : FileReading.report before.config host =
      FileReading.report beforeToo.config host := by
    funext file
    rw [FileReading.report, FileReading.report,
      IndexConfig.statisticsOf_congr markers]
  rw [← IndexConfig.documentsOf_congr markers, ← reports] at processesToo
  have samefiles := same.map fun path =>
    (tree.readingOf grammar path).report before.config host
  refine ⟨_, _, _, _, processes, processesToo, same.flatMap_right _, samefiles,
    ?_⟩
  rintro summary summaryToo stands standsToo
  have written : summary.IsWritten := by
    intro file member
    rw [stands] at member
    rcases List.mem_map.mp member with ⟨path, -, rfl⟩
    exact ⟨_, _, _, rfl⟩
  have perm : summary.files.Perm summaryToo.files := by
    rw [stands, standsToo]
    exact samefiles
  exact ⟨NodeSummary.minDate_perm written perm,
    NodeSummary.maxDate_perm written perm⟩

namespace TwoFiles

/-- The file that is written to, and the one that was set aside before. -/
def paths : List Path :=
  ["system.log", "system.log.1"].map fun name =>
    ⟨.root, ["cluster", "n1", "logs", name]⟩

def line (day : String) : String :=
  "INFO  [main] 2020-01-" ++ day ++ " 09:30:00,123  A.java:1 - hello\n"

/-- A node with two log files. -/
def tree : FileTree where
  nodes := [
    (["cluster"], .directory), (["cluster", "n1"], .directory),
    (["cluster", "n1", "logs"], .directory),
    (["cluster", "n1", "logs", "system.log"],
      .file ((line "31").toList.map fun c => UInt8.ofNat c.toNat)),
    (["cluster", "n1", "logs", "system.log.1"],
      .file ((line "30").toList.map fun c => UInt8.ofNat c.toNat))]

theorem hasDistinctPrints : tree.HasDistinctPrints paths where
  readable := by
    have readable : ∀ path ∈ paths,
        (tree.fingerprint path fingerprintLines).toOption.isSome = true := by
      decide +kernel
    intro path member
    rcases Option.isSome_iff_exists.mp (readable path member) with
      ⟨print, found⟩
    exact ⟨print, eq_ok_of_toOption found⟩
  distinct := by
    have distinct : paths.Pairwise fun path other =>
        (tree.fingerprint path fingerprintLines).toOption ≠
          (tree.fingerprint other fingerprintLines).toOption := by
      decide +kernel
    exact distinct.imp fun apart same => apart (congrArg _ same)

/-- A writer that stores each document at once. -/
def writing : Writing where
  config := { batchSize := 1 }
  store := { documents := some [] }

/-- A writer of larger batches for which a document waits. -/
def busy : Writing where
  store := {}
  pending := [⟨"n2", "WARN", "earlier", "20200101000000"⟩]

/-- A summary of a node with one file, for two nodes of one host. -/
def summary (day : String) : NodeSummary where
  host := "n1"
  appender := Appender.unconfigured
  files := [("system.log", {
    minTimestamp := some ("202001" ++ day ++ "000000")
    maxTimestamp := some ("202001" ++ day ++ "093000") })]

end TwoFiles

theorem processing_order_irrelevant_twoFiles :
    (∃ files filesToo documents documentsToo,
      Ingestion.Processes TwoFiles.tree Layout.stockGrammar "n1"
        TwoFiles.writing TwoFiles.paths files documents ∧
      Ingestion.Processes TwoFiles.tree Layout.stockGrammar "n1"
        TwoFiles.busy TwoFiles.paths.reverse filesToo documentsToo ∧
      documents.Perm documentsToo ∧ files.Perm filesToo) ∧
    SameRanges (logRanges [TwoFiles.summary "30", TwoFiles.summary "31"])
      (logRanges [TwoFiles.summary "31", TwoFiles.summary "30"]) := by
  constructor
  · rcases processing_order_irrelevant.1 TwoFiles.tree Layout.stockGrammar "n1"
      TwoFiles.paths TwoFiles.paths.reverse TwoFiles.writing TwoFiles.busy
      (List.reverse_perm _).symm TwoFiles.hasDistinctPrints rfl with
      ⟨files, filesToo, documents, documentsToo, processes, processesToo,
        sameDocuments, sameFiles, -⟩
    exact ⟨files, filesToo, documents, documentsToo, processes, processesToo,
      sameDocuments, sameFiles⟩
  · exact processing_order_irrelevant.2 _ _ (List.Perm.swap _ _ _)

end ClusterLog
