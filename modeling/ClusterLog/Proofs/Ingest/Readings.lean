import ClusterLog.Ingest.Cluster
import ClusterLog.Proofs.Files.EarlierRuns
import ClusterLog.Proofs.Index.Statistics

/-!
# Readings of log files

An ingestion reads the log files of its nodes one after the other and hands
their entries to the writer of the index: each file that is no duplicate is one
call of the writer.  What is read, up to the first failure, depends on the files
alone.  The ingestion fails if the reading does; otherwise its summaries hold
the statistics of the calls.
-/

namespace ClusterLog

/-- A log file that was read. -/
structure FileReading where
  path : Path
  entries : List Entry

/-- The log files of a node that were read, in the order of processing. -/
structure NodeLogs where
  host : String
  files : List FileReading

/-- A node whose log files were indexed. -/
structure NodeReading where
  summary : NodeSummary
  files : List FileReading

namespace FileReading

/-- The call of the writer for a file of a host. -/
def call (host : String) (file : FileReading) : WriterCall :=
  .write host file.entries

/-- What the summary of a node says about a file. -/
def report (config : IndexConfig) (host : String) (file : FileReading) :
    String × WriteStatistics :=
  (file.path.text, config.statisticsOf host file.entries)

/-- The file is there, and these are its entries. -/
def IsRead (tree : FileTree) (file : FileReading) : Prop :=
  ∃ grammar, tree.entries file.path grammar = .ok file.entries

end FileReading

namespace NodeLogs

/-- The calls of the writer for the files of a node. -/
def calls (logs : NodeLogs) : List WriterCall :=
  logs.files.map (FileReading.call logs.host)

/-- The documents of a node. -/
def documents (config : IndexConfig) (logs : NodeLogs) : List Document :=
  logs.files.flatMap fun file => config.documentsOf logs.host file.entries

/-- The documents that the files of nodes hand to a writer. -/
theorem accepted_calls (config : IndexConfig) (nodes : List NodeLogs) :
    WriterCall.accepted config (nodes.flatMap calls) =
      nodes.flatMap (documents config) := by
  rw [WriterCall.accepted, List.flatMap_assoc]
  congr 1
  funext logs
  rw [calls, documents, List.flatMap_map]
  rfl

theorem exists_write_of_mem_calls {nodes : List NodeLogs} {call : WriterCall}
    (member : call ∈ nodes.flatMap calls) :
    ∃ host entries, call = .write host entries := by
  rcases List.mem_flatMap.mp member with ⟨logs, -, inside⟩
  rcases List.mem_map.mp inside with ⟨file, -, rfl⟩
  exact ⟨logs.host, file.entries, rfl⟩

end NodeLogs

namespace NodeReading

/-- The log files of a node that was indexed. -/
def logs (reading : NodeReading) : NodeLogs where
  host := reading.summary.host
  files := reading.files

/-- The documents of a node. -/
def documents (config : IndexConfig) (reading : NodeReading) : List Document :=
  reading.files.flatMap fun file =>
    config.documentsOf reading.summary.host file.entries

/-- The files are there, and the summary says what was made of them. -/
structure IsSound (tree : FileTree) (config : IndexConfig)
    (reading : NodeReading) : Prop where
  files : reading.summary.files =
    reading.files.map (FileReading.report config reading.summary.host)
  read : ∀ file ∈ reading.files, file.IsRead tree

end NodeReading

/-! ## Readings -/

/-- What was read until there was nothing left or a reading failed. -/
structure Collected (Item : Type) where
  items : List Item := []
  failure : Option Failure := none

/-- What was read together with something in front of it. -/
def Collected.after {Item : Type} (first : Item) (others : Collected Item) :
    Collected Item :=
  { others with items := first :: others.items }

namespace FileTree

/-- Read log files, except for duplicates of files that were seen. -/
def collectFiles (tree : FileTree) (grammar : Layout.Grammar) :
    List String → List Path → Collected FileReading
  | _, [] => {}
  | seen, path :: paths =>
    match tree.fingerprint path fingerprintLines with
    | .error failure => { failure := some failure }
    | .ok fingerprint =>
      if seen.contains fingerprint then
        tree.collectFiles grammar seen paths
      else
        match tree.entries path grammar with
        | .error failure => { failure := some failure }
        | .ok entries =>
          (tree.collectFiles grammar (fingerprint :: seen) paths).after
            ⟨path, entries⟩

/-- Read the log files of a node. -/
def collectNode (tree : FileTree) (node : Path) :
    NodeLogs × Option Failure :=
  if tree.isDirectory node then
    match tree.logFiles node with
    | .error failure => (⟨tree.hostOf node, []⟩, some failure)
    | .ok (paths, appender) =>
      let files := tree.collectFiles (Layout.compile appender.layout) [] paths
      (⟨tree.hostOf node, files.items⟩, files.failure)
  else
    (⟨tree.hostOf node, []⟩, some (.nodeNotFound node.text))

/-- Read the log files of nodes.  Of a node that fails, the files before the
failure are read. -/
def collectNodes (tree : FileTree) : List Path → Collected NodeLogs
  | [] => {}
  | node :: nodes =>
    match tree.collectNode node with
    | (logs, some failure) => { items := [logs], failure := some failure }
    | (logs, none) => (tree.collectNodes nodes).after logs

/-- The log files of a cluster, as they are read when its index is rebuilt. -/
def clusterLogs (tree : FileTree) (index root : Path) : Collected NodeLogs :=
  match tree.emptied index with
  | .error failure => { failure := some failure }
  | .ok started => started.collectNodes (started.directoriesIn root)

/-- A fingerprint is that of the lines of a file, which is there. -/
theorem fingerprint_eq_ok {tree : FileTree} {path : Path} {print : String} :
    tree.fingerprint path fingerprintLines = .ok print ↔
      ∃ lines, tree.lines path = .ok lines ∧
        (Digest.sha256 (Text.encodeUtf8
          (fingerprintText fingerprintLines.toNat lines))).hex = print := by
  have proper : ¬ fingerprintLines < 0 := by decide
  rw [fingerprint, if_neg proper]
  cases tree.lines path <;> simp [pure, Except.pure, bind, Except.bind]

theorem entries_of_lines {tree : FileTree} {path : Path}
    {lines : List (List Char)} (read : tree.lines path = .ok lines)
    (grammar : Layout.Grammar) :
    tree.entries path grammar = .ok (entriesOfLines grammar lines) := by
  have there : tree.isFile path = true := by
    rcases bind_eq_ok.mp read with ⟨bytes, reads, -⟩
    rw [FileTree.bytes] at reads
    rw [isFile]
    split at reads
    · simp [*]
    · simp [*]
    · cases reads
    · cases reads
  rw [entries, if_pos there, read]
  rfl

theorem isRead_of_mem_collectFiles {tree : FileTree} {grammar : Layout.Grammar}
    {seen : List String} {paths : List Path} {file : FileReading}
    (member : file ∈ (tree.collectFiles grammar seen paths).items) :
    file.IsRead tree := by
  induction paths generalizing seen with
  | nil => cases member
  | cons path paths ih =>
      rw [collectFiles] at member
      split at member
      · cases member
      · split at member
        · exact ih member
        · split at member
          · cases member
          · rename_i entries found
            rcases List.mem_cons.mp member with rfl | inside
            · exact ⟨grammar, found⟩
            · exact ih inside

end FileTree

/-! ## Ingestions -/

namespace Ingestion

variable (tree : FileTree) (before : Writing)

/-- What becomes of a file: it cannot be read, it is skipped as a duplicate, or
it is written. -/
theorem run_ingestFile (grammar : Layout.Grammar) (host : String)
    (progress : Progress) (path : Path) :
    (ingestFile tree grammar host progress path).run before =
      match tree.fingerprint path fingerprintLines with
      | .error failure => (.error failure, before)
      | .ok fingerprint =>
        if progress.seen.contains fingerprint then
          (.ok { progress with
            duplicates := progress.duplicates ++ [path.text] }, before)
        else
          match tree.entries path grammar with
          | .error failure => (.error failure, before)
          | .ok entries =>
            (.ok { progress with
              seen := fingerprint :: progress.seen
              files := progress.files ++
                [(path.text, (before.write host entries).2)] },
              (before.write host entries).1) := by
  rw [ingestFile, run_bind, run_lift]
  cases tree.fingerprint path fingerprintLines with
  | error failure => rfl
  | ok fingerprint =>
      dsimp only
      split
      · rfl
      · rw [run_bind, run_lift]
        cases tree.entries path grammar <;> rfl

/-- Files one after the other are calls of the writer one after the other, up to
the first file that cannot be read. -/
theorem run_ingestFiles (grammar : Layout.Grammar) (host : String)
    (progress : Progress) (paths : List Path) :
    ∃ outcome,
      (ingestFiles tree grammar host progress paths).run before =
        (outcome, WriterCall.runAll before
          ((tree.collectFiles grammar progress.seen paths).items.map
            (FileReading.call host))) ∧
      Ends (fun next : Progress => next.files = progress.files ++
          (tree.collectFiles grammar progress.seen paths).items.map
            (FileReading.report before.config host))
        (tree.collectFiles grammar progress.seen paths).failure outcome := by
  -- Each file that is written adds its fingerprint and changes the index.
  induction paths generalizing progress before with
  | nil => exact ⟨_, rfl, .returns (List.append_nil _).symm⟩
  | cons path paths ih =>
      rw [ingestFiles, run_bind, run_ingestFile, FileTree.collectFiles]
      cases tree.fingerprint path fingerprintLines with
      | error failure => exact ⟨_, rfl, .fails failure⟩
      | ok fingerprint =>
          dsimp only
          by_cases known : progress.seen.contains fingerprint = true
          · rw [if_pos known, if_pos known]
            exact ih before _
          · rw [if_neg known, if_neg known]
            cases tree.entries path grammar with
            | error failure => exact ⟨_, rfl, .fails failure⟩
            | ok entries =>
                have config :
                    (before.write host entries).1.config = before.config :=
                  Writing.run_config (.write host entries)
                rcases ih (before.write host entries).1
                  { progress with
                    seen := fingerprint :: progress.seen
                    files := progress.files ++
                      [(path.text, (before.write host entries).2)] } with
                  ⟨outcome, runs, ends⟩
                refine ⟨outcome, runs, ?_⟩
                rw [config, Writing.write_statistics] at ends
                simpa [Collected.after, FileReading.report] using ends

/-- A node is indexed as far as its files can be read. -/
theorem run_ingestNode (node : Path) :
    ∃ outcome,
      (ingestNode tree node none).run before =
        (outcome,
          WriterCall.runAll before (tree.collectNode node).1.calls) ∧
      Ends (fun summary =>
          ∃ reading : NodeReading,
            reading.summary = summary ∧
            reading.IsSound tree before.config ∧
            reading.logs = (tree.collectNode node).1)
        (tree.collectNode node).2 outcome := by
  rw [ingestNode, FileTree.collectNode]
  split
  · dsimp only
    rw [run_bind, run_lift]
    cases tree.logFiles node with
    | error failure => exact ⟨_, rfl, .fails failure⟩
    | ok found =>
        rcases found with ⟨paths, appender⟩
        dsimp only
        rcases run_ingestFiles tree before (Layout.compile appender.layout)
          (tree.hostOf node) {} paths with ⟨outcome, runs, ends⟩
        rcases ends.run_bind runs with
          ⟨failure, fails, stops⟩ | ⟨succeeds, progress, reported, goesOn⟩
        · rw [fails, stops]
          exact ⟨_, rfl, .fails failure⟩
        · rw [succeeds, goesOn]
          exact ⟨_, rfl, .returns ⟨⟨_, _⟩, rfl,
            ⟨reported, fun _ => FileTree.isRead_of_mem_collectFiles⟩, rfl⟩⟩
  · exact ⟨_, rfl, .fails _⟩

/-- Nodes are indexed one after the other, up to the first one that fails. -/
theorem run_ingestNodes (nodes : List Path) :
    ∃ outcome,
      (ingestNodes tree nodes).run before =
        (outcome, WriterCall.runAll before
          ((tree.collectNodes nodes).items.flatMap NodeLogs.calls)) ∧
      Ends (fun summaries =>
          ∃ readings : List NodeReading,
            readings.map NodeReading.summary = summaries ∧
            (∀ reading ∈ readings, reading.IsSound tree before.config) ∧
            readings.map NodeReading.logs = (tree.collectNodes nodes).items)
        (tree.collectNodes nodes).failure outcome := by
  induction nodes generalizing before with
  | nil => exact ⟨_, rfl, .returns ⟨[], rfl, nofun, rfl⟩⟩
  | cons node nodes ih =>
      rw [ingestNodes, FileTree.collectNodes]
      rcases run_ingestNode tree before node with ⟨outcome, runs, ends⟩
      generalize tree.collectNode node = collected at runs ends ⊢
      rcases collected with ⟨logs, failure⟩
      dsimp only at runs ends
      rcases ends.run_bind runs with
        ⟨failure, rfl, stops⟩ | ⟨rfl, summary, ⟨reading, rfl, sound, same⟩, goesOn⟩
      · rw [stops]
        -- The files in front of the failure were handed over all the same.
        refine ⟨_, ?_, .fails failure⟩
        rw [List.flatMap_singleton]
      · rw [goesOn]
        rcases ih (WriterCall.runAll before logs.calls) with
          ⟨others, runsOthers, endsOthers⟩
        have called : WriterCall.runAll (WriterCall.runAll before logs.calls)
              ((tree.collectNodes nodes).items.flatMap NodeLogs.calls) =
            WriterCall.runAll before
              (((tree.collectNodes nodes).after logs).items.flatMap
                NodeLogs.calls) := by
          rw [Collected.after, List.flatMap_cons, WriterCall.runAll,
            WriterCall.runAll, WriterCall.runAll, List.foldl_append]
        rw [called] at runsOthers
        rw [Writing.runAll_config] at endsOthers
        dsimp only [Collected.after] at *
        rcases endsOthers.run_bind runsOthers with
          ⟨failure, fails, stops⟩ | ⟨succeeds, behind, found, goesOn⟩
        · rw [fails, stops]
          exact ⟨_, rfl, .fails failure⟩
        · rcases found with ⟨readings, rfl, soundOthers, sameOthers⟩
          rw [succeeds, goesOn]
          refine ⟨_, rfl, .returns ⟨reading :: readings, rfl, ?_, ?_⟩⟩
          · exact List.forall_mem_cons.mpr ⟨sound, soundOthers⟩
          · rw [List.map_cons, same, sameOthers]

end Ingestion

/-! ## Clusters -/

/-- A fresh index after the calls for the files of nodes.  Nothing waits for its
batch, so that it does not matter how the writer is left. -/
theorem NodeLogs.store_runAll_calls (config : IndexConfig)
    (nodes : List NodeLogs) :
    let written := WriterCall.runAll
      { config, store := { documents := some [] } } (nodes.flatMap calls)
    let store : Store := { documents := some (nodes.flatMap (documents config)) }
    written.close = store ∧ written.abort = store := by
  intro written store
  have begun := Writing.holds_start config {} true
  have writes : ∀ call ∈ nodes.flatMap calls,
      ∃ host entries, call = .write host entries :=
    fun _ => exists_write_of_mem_calls
  have holds := begun.runAll_writes writes
  have accepted : WriterCall.accepted (Writing.start config {} true).config
      (nodes.flatMap calls) = nodes.flatMap (documents config) :=
    accepted_calls config nodes
  rw [accepted] at holds
  have ranges : written.store.ranges = none := Writing.runAll_ranges _
  have whole : ∀ other : Store, other.documents = store.documents →
      other.ranges = none → other = store := by
    rintro ⟨_, _⟩ rfl rfl
    rfl
  exact ⟨whole _ holds.flush.stored ranges, whole _ holds.stored ranges⟩

namespace FileTree

variable {tree started : FileTree} {index root : Path}

theorem ingestCluster_of_error {failure : Failure} {config : IndexConfig}
    (there : tree.isDirectory root = true)
    (fails : tree.emptied index = .error failure) :
    tree.ingestCluster index config root = (.error failure, tree) := by
  rw [ingestCluster, if_pos there, startWriting_fresh, fails]
  rfl

/-- Whether it returns or fails, an ingestion of a cluster leaves the documents
of the files that were read, and no ranges. -/
theorem ingestCluster_eq (config : IndexConfig)
    (there : tree.isDirectory root = true)
    (empties : tree.emptied index = .ok started) :
    ∃ outcome,
      tree.ingestCluster index config root =
        (outcome, started.putStore index {
          documents := some ((tree.clusterLogs index root).items.flatMap
            (NodeLogs.documents config)) }) ∧
      Ends (fun summaries =>
          ∃ readings : List NodeReading,
            readings.map NodeReading.summary = summaries ∧
            (∀ reading ∈ readings, reading.IsSound started config) ∧
            readings.map NodeReading.logs =
              (tree.clusterLogs index root).items)
        (tree.clusterLogs index root).failure outcome := by
  rw [ingestCluster, if_pos there, startWriting_fresh, clusterLogs, empties]
  dsimp only [Except.map]
  generalize started.directoriesIn root = nodes
  rcases Ingestion.run_ingestNodes started
    { config, store := { documents := some [] } } nodes with
    ⟨outcome, runs, ends⟩
  rcases NodeLogs.store_runAll_calls config (started.collectNodes nodes).items
    with ⟨closed, aborted⟩
  have run : Ingestion.ingestNodes started nodes
      { config, store := { documents := some [] } } = (outcome, _) := runs
  refine ⟨outcome, ?_, ends⟩
  rw [run]
  cases outcome with
  | error failure =>
      dsimp only
      rw [aborted]
  | ok summaries =>
      dsimp only
      rw [closed]

end FileTree

end ClusterLog
